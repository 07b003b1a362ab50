import ShardStore.Config.Encode
import ShardStore.Proofs.Config.Acceptance
import ShardStore.Proofs.Config.Sizes

/-!
# Reading what was written

The tree that is written for a configuration describes just that one. So it is read back, whatever its texts and numbers are
and whatever is left out.
-/

namespace ShardStore

open Node Config

variable {α : Type}

/-! ## Single values -/

theorem means_textNode (s : String) : (textNode s).MeansText s := rfl

theorem writes_numberNode (n : Nat) : (numberNode n).Writes n := writesNatural_toString n

/-- No word for nothing is a number. -/
theorem not_isNull_numberNode (n : Nat) : ¬(numberNode n).IsNull := by
  intro hnull
  have hdigits : ∀ c ∈ (toString n).toList, c.isDigit = true := by
    rw [Nat.toString_eq_repr, Nat.toList_repr]
    exact fun c hc => Nat.isDigit_of_mem_toDigits (by decide) (by decide) hc
  have hsome : (toString n).toList ≠ [] := by
    rw [Nat.toString_eq_repr, Nat.toList_repr]
    exact (spells_toDigits n).1
  have hwords : ∀ s ∈ ["", "~", "null", "Null", "NULL"], s.toList = [] ∨ ∃ c ∈ s.toList, c.isDigit = false := by simp
  rcases hwords _ hnull with hempty | ⟨c, hc, hother⟩
  · exact hsome hempty
  · rw [hdigits c hc] at hother
    cases hother

theorem isBare_textNode (s : String) : (textNode s).IsBare := .scalar rfl

theorem isBare_numberNode (n : Nat) : (numberNode n).IsBare := .scalar rfl

theorem isBare_orNullNode {encode : α → Node} (hbare : ∀ a, (encode a).IsBare) (o : Option α) :
    (orNullNode encode o).IsBare := by
  cases o with
  | none => exact .scalar rfl
  | some a => exact hbare a

/-! ## Records -/

section

variable {fields : List (String × Node)} {name : String} {v : Node} {R : Node → α → Prop} {names : List String}

/-- The entries of a record that is written. -/
def writtenEntries (fields : List (String × Node)) : List (Node × Node) := fields.map fun f => (textNode f.1, f.2)

theorem isBare_record (hbare : ∀ f ∈ fields, f.2.IsBare) : (record fields).IsBare := by
  refine .mapping rfl ?_ ?_
  · exact List.forall_mem_map.2 fun f _ => .scalar rfl
  · exact List.forall_mem_map.2 hbare

theorem valuesOf_writtenEntries (name : String) (fields : List (String × Node)) :
    valuesOf name (writtenEntries fields) = (fields.filter (·.1 = name)).map Prod.snd := by
  have hkey : ∀ s, (textNode s).text? = some name ↔ s = name := fun s => Option.some_inj
  simp only [valuesOf, writtenEntries, List.filter_map, List.map_map, Function.comp_def, hkey]

theorem length_valuesOf_le_one (hdistinct : (fields.map Prod.fst).Nodup) (name : String) :
    (valuesOf name (writtenEntries fields)).length ≤ 1 := by
  have hcount : (fields.map Prod.fst).count name ≤ 1 := List.nodup_iff_count_le_one.1 hdistinct name
  rw [List.count, List.countP_map, List.countP_eq_length_filter] at hcount
  rw [valuesOf_writtenEntries, List.length_map]
  exact hcount

theorem field?_writtenEntries (hdistinct : (fields.map Prod.fst).Nodup) (hmem : (name, v) ∈ fields) :
    field? name (writtenEntries fields) = some v := by
  have hlength := length_valuesOf_le_one hdistinct name
  have hv : v ∈ valuesOf name (writtenEntries fields) := by
    rw [valuesOf_writtenEntries]
    exact List.mem_map.2 ⟨(name, v), List.mem_filter.2 ⟨hmem, decide_eq_true rfl⟩, rfl⟩
  rw [field?]
  cases hvalues : valuesOf name (writtenEntries fields) with
  | nil =>
      rw [hvalues] at hv
      cases hv
  | cons w rest =>
      rw [hvalues] at hlength hv
      obtain rfl : rest = [] := List.length_eq_zero_iff.1 (Nat.le_zero.1 (Nat.le_of_succ_le_succ hlength))
      rw [List.mem_singleton.1 hv, List.head?_cons]

theorem isRecordOf_record {P : List (Node × Node) → Prop} (hdistinct : (fields.map Prod.fst).Nodup)
    (hP : (∀ name v, (name, v) ∈ fields → field? name (writtenEntries fields) = some v) → P (writtenEntries fields)) :
    (record fields).IsRecordOf names P := by
  refine ⟨_, _, rfl, ⟨?_, fun name _ => length_valuesOf_le_one hdistinct name⟩, hP ?_⟩
  · exact List.forall_mem_map.2 fun f _ => Option.some_ne_none f.1
  · exact fun name v => field?_writtenEntries hdistinct

/-! ## What is there or left out -/

variable {es : List (Node × Node)}

theorem gives_of_field {a : α} (hfield : field? name es = some v) (hmeans : R v a) : Gives R name es a := ⟨v, hfield, hmeans⟩

theorem mayGive_orNullNode {encode : α → Node} (hnull : ∀ a, ¬(encode a).IsNull) (hmeans : ∀ a, R (encode a) a)
    {o : Option α} (hfield : field? name es = some (orNullNode encode o)) : MayGive R name es o := by
  cases o with
  | none =>
      rintro v hv
      obtain rfl := Option.some.inj (hfield.symm.trans hv)
      exact (by decide : "null" ∈ ["", "~", "null", "Null", "NULL"])
  | some a => exact ⟨_, hfield, hnull a, hmeans a⟩

end

/-! ## Sections -/

namespace Config

theorem Logs.means_toNode (c : Logs) : c.toNode.MeansLogs c := by
  refine isRecordOf_record (by simp) fun hfields => ?_
  exact mayGive_orNullNode (fun _ => id) means_textNode (hfields _ _ (by simp))

/-- The records of both sizes, where `encode` writes bucket counts. -/
theorem meansSize_record {κ : Type} {R : Node → κ → Prop} {encode : κ → Node} (hnull : ∀ b, ¬(encode b).IsNull)
    (hmeans : ∀ b, R (encode b) b) (length : UInt64) (buckets : Option κ) :
    (record [("length", numberNode length.toNat), ("buckets", orNullNode encode buckets)]).MeansSize R length buckets := by
  refine isRecordOf_record (by simp) fun hfields => ⟨?_, ?_⟩
  · exact gives_of_field (hfields _ _ (by simp)) (writes_numberNode _)
  · exact mayGive_orNullNode hnull hmeans (hfields _ _ (by simp))

theorem Split.means_toNode (c : Split) : c.toNode.MeansSplit c :=
  meansSize_record (fun b : UInt16 => not_isNull_numberNode b.toNat) (fun b => writes_numberNode b.toNat) c.length c.buckets

theorem SingleWriter.means_toNode (c : SingleWriter) : c.toNode.MeansSingleWriter c :=
  meansSize_record (fun b : UInt64 => not_isNull_numberNode b.toNat) (fun b => writes_numberNode b.toNat) c.length c.buckets

theorem Synced.means_toNode (c : Synced) : c.toNode.MeansSynced c := by
  refine isRecordOf_record (by simp) fun hfields => ?_
  exact .inr (gives_of_field (hfields _ _ (by simp)) (writes_numberNode _))

theorem Workload.means_toNode (c : Workload) : c.toNode.MeansWorkload c := by
  refine isRecordOf_record (by simp) fun hfields => ⟨?_, .inr ?_⟩
  · exact gives_of_field (hfields _ _ (by simp)) (writes_numberNode _)
  · exact gives_of_field (hfields _ _ (by simp)) (writes_numberNode _)

theorem means_toNode (c : Config) : c.toNode.MeansConfiguration c := by
  refine isRecordOf_record (by simp) fun hfields => gives_of_field (hfields _ _ (List.mem_singleton_self _)) ?_
  refine isRecordOf_record (by simp) fun hfields => ⟨?_, ?_, ?_, ?_, ?_, ?_⟩
  · exact gives_of_field (hfields _ _ (by simp)) (means_textNode c.env)
  · exact mayGive_orNullNode (fun _ => id) Logs.means_toNode (hfields _ _ (by simp))
  · exact mayGive_orNullNode (fun _ => id) Split.means_toNode (hfields _ _ (by simp))
  · exact mayGive_orNullNode (fun _ => id) SingleWriter.means_toNode (hfields _ _ (by simp))
  · exact mayGive_orNullNode (fun _ => id) Synced.means_toNode (hfields _ _ (by simp))
  · exact mayGive_orNullNode (fun _ => id) Workload.means_toNode (hfields _ _ (by simp))

/-! ## Whole configurations -/

theorem Logs.isBare_toNode (c : Logs) : c.toNode.IsBare :=
  isBare_record (by simp [isBare_orNullNode, isBare_textNode])

theorem Split.isBare_toNode (c : Split) : c.toNode.IsBare :=
  isBare_record (by simp [isBare_orNullNode, isBare_numberNode])

theorem SingleWriter.isBare_toNode (c : SingleWriter) : c.toNode.IsBare :=
  isBare_record (by simp [isBare_orNullNode, isBare_numberNode])

theorem Synced.isBare_toNode (c : Synced) : c.toNode.IsBare := isBare_record (by simp [isBare_numberNode])

theorem Workload.isBare_toNode (c : Workload) : c.toNode.IsBare := isBare_record (by simp [isBare_numberNode])

theorem isBare_toNode (c : Config) : c.toNode.IsBare := by
  refine isBare_record (List.forall_mem_singleton.2 (isBare_record ?_))
  simp [isBare_textNode, isBare_orNullNode, Logs.isBare_toNode, Split.isBare_toNode, SingleWriter.isBare_toNode,
    Synced.isBare_toNode, Workload.isBare_toNode]

theorem hasBuckets_of_read {doc : Document} {c : Config} (hread : ofDocumentChecked doc = .ok c) : c.HasBuckets := by
  rw [ofDocumentChecked] at hread
  split at hread
  · obtain ⟨rfl, hbuckets⟩ := check_eq_ok_iff.1 hread
    exact hbuckets
  · cases hread

/-- A configuration is read from the tree that is written for it, and passes the checks just if it gives no bucket count of
zero. What was read once, from a tree or a text, is read again. -/
theorem written_reads_back (c : Config) :
    ofDocument (.ofRoot c.toNode) = .ok c ∧ (ofDocumentChecked (.ofRoot c.toNode) = .ok c ↔ c.HasBuckets) ∧
      (∀ doc, ofDocumentChecked doc = .ok c → ofDocumentChecked (.ofRoot c.toNode) = .ok c) ∧
      ∀ text, parse text = .ok c → ofDocumentChecked (.ofRoot c.toNode) = .ok c := by
  have hbare : (Document.ofRoot c.toNode).root.IsBare := c.isBare_toNode
  have hchecked : ofDocumentChecked (.ofRoot c.toNode) = .ok c ↔ c.HasBuckets :=
    (ofDocumentChecked_eq_ok_iff hbare).trans (and_iff_right c.means_toNode)
  exact ⟨(ofDocument_eq_ok_iff hbare).2 c.means_toNode, hchecked, fun doc hread => hchecked.2 (hasBuckets_of_read hread),
    fun text hparse => hchecked.2 (hasBuckets_of_parse hparse)⟩

/-- Texts that are empty or a word for nothing, and the largest numbers. -/
theorem awkward_values_read_back :
    let c : Config :=
      { env := "null", logs := some ⟨some ""⟩, split := some ⟨18446744073709551615, some 65535⟩,
        singleWriter := some ⟨0, some 18446744073709551615⟩ }
    let text := "txmap:\n  env: \"null\"\n  logs:\n    level: \"\"\n  split:\n    length: 0xffffffffffffffff\n" ++
      "    buckets: 65535\n  single_writer:\n    length: 0\n    buckets: 18446744073709551615\n  synced:\n"
    parse text = .ok c ∧ ofDocumentChecked (.ofRoot c.toNode) = .ok c := by
  intro c text
  have hparse : parse text = .ok c := by decide +kernel
  exact ⟨hparse, (written_reads_back c).2.2.2 text hparse⟩

end Config

end ShardStore
