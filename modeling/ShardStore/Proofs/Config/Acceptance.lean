import ShardStore.Proofs.Config.Sections

/-!
# Which documents are configurations

A tree is read as a configuration just if it has the form of one, field by field: whether it has does not depend on what its
values mean, but for the ranges of its numbers.
-/

namespace ShardStore

variable {α κ : Type}

theorem ne_some_iff {o : Option κ} {k : κ} : (∀ a, o = some a → a ≠ k) ↔ o ≠ some k := by
  cases o <;> simp

theorem bind_ne_some_iff {b : α → Option κ} {k : κ} {o : Option α} :
    (∀ a, o = some a → b a ≠ some k) ↔ o.bind b ≠ some k := by
  cases o <;> simp

theorem any_eq_some_iff [DecidableEq κ] {b : α → Option κ} {k : κ} {o : Option α} :
    o.any (b · = some k) = true ↔ o.bind b = some k := by
  cases o <;> simp

namespace Node

/-! ## What has a meaning -/

section

variable {R : Node → α → Prop} {P : Node → Prop} {Q : α → Prop} {name : String} {es : List (Node × Node)}

theorem exists_isRecordOf_iff {names : List String} {P : List (Node × Node) → α → Prop} {n : Node} :
    (∃ a, n.IsRecordOf names (P · a)) ↔ n.IsRecordOf names fun es => ∃ a, P es a := by
  constructor
  · rintro ⟨a, mark, es, heq, hrecord, hP⟩
    exact ⟨mark, es, heq, hrecord, a, hP⟩
  · rintro ⟨mark, es, heq, hrecord, a, hP⟩
    exact ⟨a, mark, es, heq, hrecord, hP⟩

theorem exists_gives_iff (hform : ∀ v, (∃ a, R v a) ↔ P v) : (∃ a, Gives R name es a) ↔ Has P name es := by
  constructor
  · rintro ⟨a, v, hfield, hmeans⟩
    exact ⟨v, hfield, (hform v).1 ⟨a, hmeans⟩⟩
  · rintro ⟨v, hfield, hP⟩
    obtain ⟨a, hmeans⟩ := (hform v).2 hP
    exact ⟨a, v, hfield, hmeans⟩

theorem exists_givesOr_iff {default : α} (hform : ∀ v, (∃ a, R v a) ↔ P v) :
    (∃ a, GivesOr R default name es a) ↔ MayHave P name es := by
  simp only [GivesOr, Gives, Has, MayHave, ← hform]
  cases field? name es with
  | none => simp
  | some v => simp

theorem exists_mayGive_iff (hform : ∀ v, (∃ a, R v a) ↔ P v) :
    (∃ o, MayGive R name es o) ↔ MayHave (fun v => v.IsNull ∨ P v) name es := by
  constructor
  · rintro ⟨o, hgives⟩ v hfield
    cases o with
    | none => exact .inl (hgives v hfield)
    | some a =>
        obtain ⟨w, hw, -, hmeans⟩ := hgives
        obtain rfl : w = v := Option.some.inj (hw.symm.trans hfield)
        exact .inr ((hform w).1 ⟨a, hmeans⟩)
  · intro hP
    by_cases hnone : MayHave IsNull name es
    · exact ⟨none, hnone⟩
    · simp only [MayHave, not_forall] at hnone
      obtain ⟨v, hfield, hnull⟩ := hnone
      obtain ⟨a, hmeans⟩ := (hform v).2 ((hP v hfield).resolve_left hnull)
      exact ⟨some a, v, hfield, hnull, hmeans⟩

theorem gives_and_iff {a : α} : Gives (fun v a => R v a ∧ Q a) name es a ↔ Gives R name es a ∧ Q a := by
  simp only [Gives, Has, ← and_assoc, exists_and_right]

theorem mayGive_and_iff {o : Option α} :
    MayGive (fun v a => R v a ∧ Q a) name es o ↔ MayGive R name es o ∧ ∀ a, o = some a → Q a := by
  cases o with
  | none => simp [MayGive]
  | some a => simp [MayGive, Has, ← and_assoc, exists_and_right]

end

/-! ## Sections -/

variable {n : Node}

theorem isScalar_iff : n.IsScalar ↔ ∃ s, n.MeansText s := Option.ne_none_iff_exists'

theorem exists_meansWord_iff {least : Nat} : (∃ w, n.MeansWord w ∧ least ≤ w.toNat) ↔ n.IsInteger least (2 ^ 64 - 1) := by
  constructor
  · rintro ⟨w, hwrites, hleast⟩
    exact ⟨w.toNat, hwrites, hleast, Nat.le_sub_one_of_lt w.toNat_lt⟩
  · rintro ⟨k, hwrites, hleast, hmost⟩
    have hk : (UInt64.ofNat k).toNat = k := UInt64.toNat_ofNat_of_lt' (Nat.lt_of_le_sub_one (by decide) hmost)
    exact ⟨.ofNat k, by rwa [MeansWord, hk], by rwa [hk]⟩

theorem exists_meansHalfword_iff {least : Nat} :
    (∃ w, n.MeansHalfword w ∧ least ≤ w.toNat) ↔ n.IsInteger least (2 ^ 16 - 1) := by
  constructor
  · rintro ⟨w, hwrites, hleast⟩
    exact ⟨w.toNat, hwrites, hleast, Nat.le_sub_one_of_lt w.toNat_lt⟩
  · rintro ⟨k, hwrites, hleast, hmost⟩
    have hk : (UInt16.ofNat k).toNat = k := UInt16.toNat_ofNat_of_lt' (Nat.lt_of_le_sub_one (by decide) hmost)
    exact ⟨.ofNat k, by rwa [MeansHalfword, hk], by rwa [hk]⟩

theorem exists_word_iff : (∃ w, n.MeansWord w) ↔ n.IsInteger 0 (2 ^ 64 - 1) := by
  have hall : (∃ w, n.MeansWord w ∧ 0 ≤ w.toNat) ↔ n.IsInteger 0 (2 ^ 64 - 1) := exists_meansWord_iff
  simpa using hall

theorem exists_nonzero_word_iff : (∃ w, n.MeansWord w ∧ w ≠ 0) ↔ n.IsInteger 1 (2 ^ 64 - 1) := by
  simp only [← exists_meansWord_iff, Nat.one_le_iff_ne_zero, ne_eq, ← UInt64.toNat_inj, UInt64.toNat_zero]

theorem exists_nonzero_halfword_iff : (∃ w, n.MeansHalfword w ∧ w ≠ 0) ↔ n.IsInteger 1 (2 ^ 16 - 1) := by
  simp only [← exists_meansHalfword_iff, Nat.one_le_iff_ne_zero, ne_eq, ← UInt16.toNat_inj, UInt16.toNat_zero]

theorem exists_meansLogs_iff : (∃ c, n.MeansLogs c) ↔ n.IsLogs := by
  refine exists_isRecordOf_iff.trans (isRecordOf_congr fun es => ?_)
  rw [← exists_mayGive_iff fun v => isScalar_iff.symm]
  exact ⟨fun ⟨c, hgives⟩ => ⟨c.level, hgives⟩, fun ⟨level, hgives⟩ => ⟨⟨level⟩, hgives⟩⟩

theorem exists_meansSynced_iff : (∃ c, n.MeansSynced c) ↔ n.IsSynced := by
  refine exists_isRecordOf_iff.trans (isRecordOf_congr fun es => ?_)
  rw [← exists_givesOr_iff fun v => exists_word_iff]
  exact ⟨fun ⟨c, hgives⟩ => ⟨c.limit, hgives⟩, fun ⟨limit, hgives⟩ => ⟨⟨limit⟩, hgives⟩⟩

theorem exists_meansWorkload_iff : (∃ c, n.MeansWorkload c) ↔ n.IsWorkload := by
  refine exists_isRecordOf_iff.trans (isRecordOf_congr fun es => ?_)
  rw [← exists_gives_iff fun v => exists_word_iff, ← exists_givesOr_iff fun v => exists_word_iff]
  exact ⟨fun ⟨c, hitems, hworkers⟩ => ⟨⟨c.items, hitems⟩, c.workers, hworkers⟩,
    fun ⟨⟨items, hitems⟩, workers, hworkers⟩ => ⟨⟨items, workers⟩, hitems, hworkers⟩⟩

/-- Of bucket counts just zero is refused. -/
theorem exists_meansSize_iff {R : Node → κ → Prop} {zero : κ} {most : Nat}
    (hbuckets : ∀ v, (∃ b, R v b ∧ b ≠ zero) ↔ v.IsInteger 1 most) :
    (∃ l b, n.MeansSize R l b ∧ b ≠ some zero) ↔ n.IsSize most := by
  rw [IsSize]
  simp only [← exists_gives_iff fun v => exists_word_iff, ← exists_mayGive_iff hbuckets, mayGive_and_iff, ne_some_iff]
  constructor
  · rintro ⟨l, b, ⟨mark, es, heq, hrecord, hlength, hgives⟩, hne⟩
    exact ⟨mark, es, heq, hrecord, ⟨l, hlength⟩, b, hgives, hne⟩
  · rintro ⟨mark, es, heq, hrecord, ⟨l, hlength⟩, b, hgives, hne⟩
    exact ⟨l, b, ⟨mark, es, heq, hrecord, hlength, hgives⟩, hne⟩

theorem exists_meansSplit_iff : (∃ c, n.MeansSplit c ∧ c.buckets ≠ some 0) ↔ n.IsSize (2 ^ 16 - 1) := by
  rw [← exists_meansSize_iff fun v => exists_nonzero_halfword_iff]
  exact ⟨fun ⟨c, hmeans⟩ => ⟨c.length, c.buckets, hmeans⟩, fun ⟨l, b, hmeans⟩ => ⟨⟨l, b⟩, hmeans⟩⟩

theorem exists_meansSingleWriter_iff : (∃ c, n.MeansSingleWriter c ∧ c.buckets ≠ some 0) ↔ n.IsSize (2 ^ 64 - 1) := by
  rw [← exists_meansSize_iff fun v => exists_nonzero_word_iff]
  exact ⟨fun ⟨c, hmeans⟩ => ⟨c.length, c.buckets, hmeans⟩, fun ⟨l, b, hmeans⟩ => ⟨⟨l, b⟩, hmeans⟩⟩

/-! ## Whole documents -/

theorem exists_meansSections_iff : (∃ c, n.MeansSections c ∧ c.HasBuckets) ↔ n.IsSections := by
  rw [IsSections]
  simp only [← exists_gives_iff fun v => isScalar_iff.symm, ← exists_mayGive_iff fun v => exists_meansLogs_iff,
    ← exists_mayGive_iff fun v => exists_meansSplit_iff, ← exists_mayGive_iff fun v => exists_meansSingleWriter_iff,
    ← exists_mayGive_iff fun v => exists_meansSynced_iff, ← exists_mayGive_iff fun v => exists_meansWorkload_iff,
    mayGive_and_iff, bind_ne_some_iff]
  constructor
  · rintro ⟨c, ⟨mark, es, heq, hrecord, henv, hlogs, hsplit, hwriter, hsynced, hworkload⟩, hbuckets⟩
    exact ⟨mark, es, heq, hrecord, ⟨_, henv⟩, ⟨_, hlogs⟩, ⟨_, hsplit, hbuckets.split⟩, ⟨_, hwriter, hbuckets.singleWriter⟩,
      ⟨_, hsynced⟩, _, hworkload⟩
  · rintro ⟨mark, es, heq, hrecord, ⟨env, henv⟩, ⟨logs, hlogs⟩, ⟨split, hsplit, hsome⟩, ⟨writer, hwriter, hsome'⟩,
      ⟨synced, hsynced⟩, workload, hworkload⟩
    exact ⟨⟨env, logs, split, writer, synced, workload⟩,
      ⟨mark, es, heq, hrecord, henv, hlogs, hsplit, hwriter, hsynced, hworkload⟩, ⟨hsome, hsome'⟩⟩

theorem exists_meansConfiguration_iff : (∃ c, n.MeansConfiguration c ∧ c.HasBuckets) ↔ n.IsConfiguration := by
  rw [IsConfiguration]
  simp only [← exists_gives_iff fun v => exists_meansSections_iff, gives_and_iff]
  constructor
  · rintro ⟨c, ⟨mark, es, heq, hrecord, hgives⟩, hbuckets⟩
    exact ⟨mark, es, heq, hrecord, c, hgives, hbuckets⟩
  · rintro ⟨mark, es, heq, hrecord, c, hgives, hbuckets⟩
    exact ⟨c, ⟨mark, es, heq, hrecord, hgives⟩, hbuckets⟩

end Node

namespace Config

theorem check_eq (c : Config) :
    c.check =
      if c.split.bind (·.buckets) = some 0 then .error (.zeroBuckets .split)
      else if c.singleWriter.bind (·.buckets) = some 0 then .error (.zeroBuckets .singleWriter)
      else .ok c := by
  simp only [check, any_eq_some_iff]

theorem check_eq_ok_iff {c c' : Config} : c.check = .ok c' ↔ c = c' ∧ c.HasBuckets := by
  rw [check_eq]
  split
  · next hzero => exact iff_of_false (fun h => nomatch h) fun h => h.2.split hzero
  · next hsplit =>
      split
      · next hzero => exact iff_of_false (fun h => nomatch h) fun h => h.2.singleWriter hzero
      · next hwriter => rw [Except.ok.injEq, and_iff_left ⟨hsplit, hwriter⟩]

/-- Of a tree without tags and aliases the configuration is read that it describes, if its bucket counts are not zero. -/
theorem ofDocumentChecked_eq_ok_iff {doc : Document} (hbare : doc.root.IsBare) {c : Config} :
    ofDocumentChecked doc = .ok c ↔ doc.root.MeansConfiguration c ∧ c.HasBuckets := by
  rw [← ofDocument_eq_ok_iff hbare, ofDocumentChecked]
  cases ofDocument doc with
  | error f => exact iff_of_false (fun h => nomatch h) fun h => nomatch h.1
  | ok c' =>
      rw [check_eq_ok_iff, Except.ok.injEq]
      exact and_congr_right fun h => h ▸ Iff.rfl

/-- A document is read just if its tree has the form of a configuration, and then as the configuration that the tree
describes. -/
theorem read_just_if_configuration (doc : Document) (hbare : doc.root.IsBare) :
    ((∃ c, ofDocumentChecked doc = .ok c) ↔ doc.root.IsConfiguration) ∧
      (∀ c, ofDocumentChecked doc = .ok c ↔ doc.root.MeansConfiguration c ∧ c.HasBuckets) ∧
      ∀ text, Document.parse text = .ok doc → parse text = ofDocumentChecked doc := by
  refine ⟨?_, fun c => ofDocumentChecked_eq_ok_iff hbare, fun text htext => ?_⟩
  · simp only [ofDocumentChecked_eq_ok_iff hbare, Node.exists_meansConfiguration_iff]
  · rw [parse, htext]

/-- A tree with numbers in several notations, an empty section, a null one, and a stray key that occurs twice. -/
def mixedTree : Node :=
  let plain (s : String) : Node := .scalar { pos := default } .plain s
  let mapping (es : List (Node × Node)) : Node := .mapping { pos := default } es
  mapping [(plain "txmap", mapping
    [(plain "stray", .sequence { pos := default } []), (plain "env", .scalar { pos := default } .doubleQuoted "prod"),
      (plain "split", mapping [(plain "buckets", plain "+8"), (plain "length", plain "0x10")]),
      (plain "single_writer", plain "~"), (plain "synced", mapping []), (plain "stray", plain "on")])]

theorem mixedTree_read :
    mixedTree.IsBare ∧ ofDocumentChecked (.ofRoot mixedTree) =
        .ok { env := "prod", split := some ⟨16, some 8⟩, synced := some ⟨0⟩ } ∧
      mixedTree.IsConfiguration := by
  have hbare : (Document.ofRoot mixedTree).root.IsBare := by simp [Document.ofRoot, mixedTree]
  have hread : ofDocumentChecked (.ofRoot mixedTree) =
      .ok { env := "prod", split := some ⟨16, some 8⟩, synced := some ⟨0⟩ } := by decide +kernel
  exact ⟨hbare, hread, (read_just_if_configuration _ hbare).1.1 ⟨_, hread⟩⟩

end Config

end ShardStore
