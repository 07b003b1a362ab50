import ShardStore.Config.Decode
import ShardStore.Proofs.Config.Fields

/-!
# Reading sections

Each reader of a section makes just the value that the section means, and the reader of documents just the configuration that
the tree describes.
-/

namespace ShardStore

variable {α κ : Type}

/-! ## What fields hold -/

namespace Node

variable {R : Node → α → Prop} {name : String} {es : List (Node × Node)}

/-- What a value means that may be null. -/
def OptionOf (R : Node → α → Prop) (n : Node) : Option α → Prop
  | none => n.IsNull
  | some a => ¬n.IsNull ∧ R n a

theorem found_some_iff {a : α} : Found R name es (some a) ↔ Gives R name es a := by
  rw [Found, Gives, Has]
  cases field? name es with
  | none => simp
  | some v => simp

theorem exists_found_join_iff {b : Option α} :
    (∃ o, Found (OptionOf R) name es o ∧ o.join = b) ↔ MayGive R name es b := by
  simp only [Found]
  cases hfield : field? name es with
  | none => cases b <;> simp [MayGive, MayHave, Has, hfield]
  | some v =>
      cases b with
      | none => simp [MayGive, MayHave, hfield, OptionOf]
      | some a => simp [MayGive, Has, hfield, OptionOf]

theorem exists_found_getD_iff {default a : α} :
    (∃ o, Found R name es o ∧ o.getD default = a) ↔ GivesOr R default name es a := by
  simp only [Found, GivesOr, Gives, Has]
  cases field? name es with
  | none => simp [eq_comm]
  | some v => simp

end Node

/-! ## Single values -/

theorem Document.follow_of_isBare {doc : Document} {n : Node} (hbare : n.IsBare) : doc.follow n = n := by
  cases hbare <;> rfl

namespace Decoder

open Node

theorem text_reads : text.Reads MeansText := by
  intro n hbare doc scope path s
  cases hbare with
  | scalar | sequence | mapping => simp [text, Document.follow, MeansText, text?]

theorem word?_eq_some_iff {n : Node} (hbare : n.IsBare) {k : Nat} : word? n = some k ↔ n.Writes k ∧ k < UInt64.size := by
  cases hbare with
  | @scalar mark style s htag =>
      cases style with
      | plain => simp [word?, Writes, readUnsigned?_eq_some_iff]
      | _ => simp [word?, Writes, htag]
  | sequence | mapping => exact iff_of_false (fun h => nomatch h) fun h => nomatch h.1

theorem means_word_iff {n : Node} (hbare : n.IsBare) {w : UInt64} : n.MeansWord w ↔ word? n = some w.toNat := by
  rw [word?_eq_some_iff hbare, MeansWord, and_iff_left w.toNat_lt]

theorem word_reads (kind : String) : (word kind).Reads MeansWord := by
  intro n hbare doc scope path w
  simp only [word, Document.follow_of_isBare hbare, means_word_iff hbare]
  cases hword : word? n with
  | none => simp
  | some k =>
      have hk : k < UInt64.size := ((word?_eq_some_iff hbare).1 hword).2
      rw [Except.ok.injEq, Option.some_inj, ← UInt64.toNat_inj, UInt64.toNat_ofNat_of_lt' hk]

theorem halfword_reads : halfword.Reads MeansHalfword := by
  intro n hbare doc scope path w
  simp only [halfword, bind_eq_ok_iff, word_reads _ n hbare doc scope path _, MeansWord, MeansHalfword]
  constructor
  · rintro ⟨k, hwrites, hk⟩
    split at hk
    · next hlt =>
        obtain rfl := Except.ok.inj hk
        rwa [UInt16.toNat_ofNat_of_lt' hlt]
    · cases hk
  · intro hwrites
    refine ⟨w.toUInt64, by rwa [UInt16.toNat_toUInt64], ?_⟩
    rw [UInt16.toNat_toUInt64, if_pos w.toNat_lt, UInt16.ofNat_toNat]
    rfl

theorem isAbsent_of_isBare (scope : Scope) {n : Node} (hbare : n.IsBare) :
    ∃ b, isAbsent scope n = .ok b ∧ (b = true ↔ n.IsNull) := by
  cases hbare with
  | @scalar mark style s htag =>
      cases style with
      | plain =>
          refine ⟨s.isEmpty || isNullWord s, by simp [isAbsent, htag], ?_⟩
          simp only [isNullWord, IsNull, Bool.or_eq_true, String.isEmpty_iff, List.contains_iff_mem, List.mem_cons,
            List.not_mem_nil, or_false]
          tauto
      | _ => exact ⟨false, rfl, by simp [IsNull]⟩
  | sequence | mapping => exact ⟨false, rfl, by simp [IsNull]⟩

theorem Reads.unlessNull {decode : Decoder α} {R : Node → α → Prop} (hreads : decode.Reads R) : decode.ReadsUnlessNull R :=
  fun n hbare _ => hreads n hbare

theorem ReadsUnlessNull.optional {decode : Decoder α} {R : Node → α → Prop} (hreads : decode.ReadsUnlessNull R) :
    (optional decode).Reads (OptionOf R) := by
  intro n hbare doc scope path o
  obtain ⟨b, habsent, hnull⟩ := isAbsent_of_isBare scope hbare
  simp only [Decoder.optional, Document.follow_of_isBare hbare, habsent]
  cases b with
  | true =>
      have hn : n.IsNull := hnull.1 rfl
      cases o with
      | none => exact iff_of_true rfl hn
      | some a => exact iff_of_false (fun h => nomatch h) fun h => h.1 hn
  | false =>
      have hn : ¬n.IsNull := fun h => Bool.false_ne_true (hnull.2 h)
      change (decode doc scope path n >>= fun a => .ok (some a)) = .ok o ↔ _
      rw [bind_eq_ok_iff]
      simp only [hreads n hbare hn doc scope path _]
      cases o with
      | none => exact iff_of_false (fun ⟨_, _, h⟩ => nomatch h) hn
      | some a => simp [OptionOf, hn]

end Decoder

/-! ## Records of one field -/

/-- The field of drafts that are nothing but it. -/
def DraftField.sole {decode : Decoder α} {R : Node → α → Prop} (name : String) (reads : decode.Reads R) :
    DraftField (Option α) where
  name
  get := id
  put _ a := some a
  decode
  means := R
  get_put _ _ := rfl
  reads

section

variable {decode : Decoder α} {R : Node → α → Prop} {name : String} {reads : decode.Reads R} {β : Type}

theorem Independent.sole : Independent [DraftField.sole name reads] where
  names := List.nodup_singleton _
  get_put_other f hf g hg hne := absurd (by rw [List.mem_singleton.1 hf, List.mem_singleton.1 hg]) hne
  ext _ _ h := h _ (List.mem_singleton_self _)

theorem RecordReader.Has.sole {r : RecordReader (Option α) β} (hfields : r.fields = [(DraftField.sole name reads).reader])
    (hstart : r.start = none) : r.Has [.sole name reads] where
  fields := hfields
  independent := .sole
  start := List.forall_mem_singleton.2 hstart

theorem RecordReader.makes_sole_iff {r : RecordReader (Option α) β} {es : List (Node × Node)} {b : β} :
    r.Makes [.sole name reads] es b ↔ ∃ o, Node.Found R name es o ∧ r.finish o = .ok b := by
  simp only [RecordReader.Makes, List.forall_mem_singleton]
  rfl

end

namespace Config

open Node Decoder

theorem required_eq_ok_iff {name : String} {o : Option α} {a : α} : required name o = .ok a ↔ o = some a := by
  cases o with
  | none => exact iff_of_false (fun h => nomatch h) fun h => nomatch h
  | some b => rw [required, Except.ok.injEq, Option.some_inj]

theorem Logs.reader_has : Logs.reader.Has [.sole "level" text_reads.unlessNull.optional] := .sole rfl rfl

theorem Logs.reads : Logs.reader.decode.ReadsUnlessNull MeansLogs := by
  refine Logs.reader_has.readsUnlessNull fun es ⟨level⟩ => ?_
  rw [RecordReader.makes_sole_iff, ← exists_found_join_iff]
  simp [Logs.reader]

theorem Synced.reader_has : Synced.reader.Has [.sole "limit" (word_reads "usize")] := .sole rfl rfl

theorem Synced.reads : Synced.reader.decode.ReadsUnlessNull MeansSynced := by
  refine Synced.reader_has.readsUnlessNull fun es ⟨limit⟩ => ?_
  rw [RecordReader.makes_sole_iff, ← exists_found_getD_iff]
  simp [Synced.reader]

/-! ## Sections of two fields -/

/-- The fields of a sized section. -/
def sizeDraftFields {buckets : Decoder κ} {R : Node → κ → Prop} (reads : buckets.Reads R) : List (DraftField (SizeDraft κ)) :=
  [{ name := "length", get := (·.length), put := fun d v => { d with length := some v }, decode := .word "usize",
     means := MeansWord, get_put := fun _ _ => rfl, reads := word_reads _ },
   { name := "buckets", get := (·.buckets), put := fun d v => { d with buckets := some v }, decode := .optional buckets,
     means := OptionOf R, get_put := fun _ _ => rfl, reads := reads.unlessNull.optional }]

section

variable {buckets : Decoder κ} {R : Node → κ → Prop} {reads : buckets.Reads R}

theorem sizeDraftFields_independent : Independent (sizeDraftFields reads) where
  names := by simp [sizeDraftFields]
  get_put_other := by simp [sizeDraftFields]
  ext := by
    rintro ⟨length, buckets⟩ ⟨length', buckets'⟩
    simp [sizeDraftFields]

theorem makes_size_iff {r : RecordReader (SizeDraft κ) α} {make : UInt64 → Option κ → α}
    (hfinish : ∀ d, r.finish d = do return make (← required "length" d.length) d.buckets.join)
    {es : List (Node × Node)} {a : α} :
    r.Makes (sizeDraftFields reads) es a ↔
      ∃ l b, (Gives MeansWord "length" es l ∧ MayGive R "buckets" es b) ∧ make l b = a := by
  simp only [RecordReader.Makes, sizeDraftFields, List.forall_mem_cons, hfinish, bind_eq_ok_iff, required_eq_ok_iff]
  constructor
  · rintro ⟨⟨_, b⟩, ⟨hlength, hbuckets, -⟩, l, rfl, hmake⟩
    exact ⟨l, b.join, ⟨found_some_iff.1 hlength, exists_found_join_iff.1 ⟨b, hbuckets, rfl⟩⟩, Except.ok.inj hmake⟩
  · rintro ⟨l, _, ⟨hlength, hbuckets⟩, hmake⟩
    obtain ⟨b, hfound, rfl⟩ := exists_found_join_iff.2 hbuckets
    exact ⟨⟨some l, b⟩, ⟨found_some_iff.2 hlength, hfound, List.forall_mem_nil _⟩, l, rfl, congrArg Except.ok hmake⟩

end

theorem Split.reader_has : Split.reader.Has (sizeDraftFields halfword_reads) where
  fields := rfl
  independent := sizeDraftFields_independent
  start := by simp [sizeDraftFields, Split.reader]

theorem Split.reads : Split.reader.decode.ReadsUnlessNull MeansSplit := by
  refine Split.reader_has.readsUnlessNull fun es ⟨length, buckets⟩ => (makes_size_iff fun _ => rfl).trans ?_
  simp

theorem SingleWriter.reader_has : SingleWriter.reader.Has (sizeDraftFields (word_reads "u64")) where
  fields := rfl
  independent := sizeDraftFields_independent
  start := by simp [sizeDraftFields, SingleWriter.reader]

theorem SingleWriter.reads : SingleWriter.reader.decode.ReadsUnlessNull MeansSingleWriter := by
  refine SingleWriter.reader_has.readsUnlessNull fun es ⟨length, buckets⟩ => (makes_size_iff fun _ => rfl).trans ?_
  simp

/-- The fields of a workload. -/
def workloadDraftFields : List (DraftField WorkloadDraft) :=
  [{ name := "items", get := (·.items), put := fun d v => { d with items := some v }, decode := .word "usize",
     means := MeansWord, get_put := fun _ _ => rfl, reads := word_reads _ },
   { name := "workers", get := (·.workers), put := fun d v => { d with workers := some v }, decode := .word "usize",
     means := MeansWord, get_put := fun _ _ => rfl, reads := word_reads _ }]

theorem Workload.reader_has : Workload.reader.Has workloadDraftFields where
  fields := rfl
  independent := {
    names := by simp [workloadDraftFields]
    get_put_other := by simp [workloadDraftFields]
    ext := by
      rintro ⟨items, workers⟩ ⟨items', workers'⟩
      simp [workloadDraftFields] }
  start := by simp [workloadDraftFields, Workload.reader]

theorem Workload.reads : Workload.reader.decode.ReadsUnlessNull MeansWorkload := by
  refine Workload.reader_has.readsUnlessNull fun es ⟨items, workers⟩ => ?_
  simp only [RecordReader.Makes, workloadDraftFields, List.forall_mem_cons, Workload.reader, bind_eq_ok_iff,
    required_eq_ok_iff]
  constructor
  · rintro ⟨⟨_, w⟩, ⟨hitems, hworkers, -⟩, i, rfl, hmake⟩
    cases hmake
    exact ⟨found_some_iff.1 hitems, exists_found_getD_iff.1 ⟨w, hworkers, rfl⟩⟩
  · rintro ⟨hitems, hworkers⟩
    obtain ⟨w, hfound, rfl⟩ := exists_found_getD_iff.2 hworkers
    exact ⟨⟨some items, w⟩, ⟨found_some_iff.2 hitems, hfound, List.forall_mem_nil _⟩, items, rfl, rfl⟩

/-! ## Whole configurations -/

/-- The sections as fields. -/
def sectionDraftFields : List (DraftField ConfigDraft) :=
  [{ name := "env", get := (·.env), put := fun d v => { d with env := some v }, decode := .text,
     means := MeansText, get_put := fun _ _ => rfl, reads := text_reads },
   { name := "logs", get := (·.logs), put := fun d v => { d with logs := some v }, decode := .optional Logs.reader.decode,
     means := OptionOf MeansLogs, get_put := fun _ _ => rfl, reads := Logs.reads.optional },
   { name := "split", get := (·.split), put := fun d v => { d with split := some v },
     decode := .optional Split.reader.decode, means := OptionOf MeansSplit, get_put := fun _ _ => rfl,
     reads := Split.reads.optional },
   { name := "single_writer", get := (·.singleWriter), put := fun d v => { d with singleWriter := some v },
     decode := .optional SingleWriter.reader.decode, means := OptionOf MeansSingleWriter, get_put := fun _ _ => rfl,
     reads := SingleWriter.reads.optional },
   { name := "synced", get := (·.synced), put := fun d v => { d with synced := some v },
     decode := .optional Synced.reader.decode, means := OptionOf MeansSynced, get_put := fun _ _ => rfl,
     reads := Synced.reads.optional },
   { name := "workload", get := (·.workload), put := fun d v => { d with workload := some v },
     decode := .optional Workload.reader.decode, means := OptionOf MeansWorkload, get_put := fun _ _ => rfl,
     reads := Workload.reads.optional }]

theorem reader_has : reader.Has sectionDraftFields where
  fields := rfl
  independent := {
    names := by simp [sectionDraftFields]
    get_put_other := by simp [sectionDraftFields]
    ext := by
      rintro ⟨env, logs, split, singleWriter, synced, workload⟩ ⟨env', logs', split', singleWriter', synced', workload'⟩
      simp [sectionDraftFields] }
  start := by simp [sectionDraftFields, reader]

theorem makes_sections_iff {es : List (Node × Node)} {c : Config} :
    reader.Makes sectionDraftFields es c ↔
      Gives MeansText "env" es c.env ∧ MayGive MeansLogs "logs" es c.logs ∧ MayGive MeansSplit "split" es c.split ∧
        MayGive MeansSingleWriter "single_writer" es c.singleWriter ∧ MayGive MeansSynced "synced" es c.synced ∧
        MayGive MeansWorkload "workload" es c.workload := by
  simp only [RecordReader.Makes, sectionDraftFields, List.forall_mem_cons, reader, bind_eq_ok_iff, required_eq_ok_iff,
    ← exists_found_join_iff]
  constructor
  · rintro ⟨⟨_, l, s, w, y, k⟩, ⟨henv, hl, hs, hw, hy, hk, -⟩, e, rfl, hmake⟩
    cases hmake
    exact ⟨found_some_iff.1 henv, ⟨l, hl, rfl⟩, ⟨s, hs, rfl⟩, ⟨w, hw, rfl⟩, ⟨y, hy, rfl⟩, k, hk, rfl⟩
  · obtain ⟨env, logs, split, singleWriter, synced, workload⟩ := c
    rintro ⟨henv, ⟨l, hl, rfl⟩, ⟨s, hs, rfl⟩, ⟨w, hw, rfl⟩, ⟨y, hy, rfl⟩, k, hk, rfl⟩
    exact ⟨⟨some env, l, s, w, y, k⟩, ⟨found_some_iff.2 henv, hl, hs, hw, hy, hk, List.forall_mem_nil _⟩, env, rfl, rfl⟩

/-- Nothing at all is no empty mapping here: the environment is missing in it. -/
theorem reads : reader.decode.Reads MeansSections := by
  intro n hbare doc scope path c
  rw [reader_has.decode_eq_ok_iff hbare fun _ c h => nomatch h]
  exact isRecordOf_congr fun es => makes_sections_iff

theorem documentReader_has : documentReader.Has [.sole "txmap" reads] := .sole rfl rfl

/-- Of a tree without tags and aliases just the configuration is read that it describes. -/
theorem ofDocument_eq_ok_iff {doc : Document} (hbare : doc.root.IsBare) {c : Config} :
    ofDocument doc = .ok c ↔ doc.root.MeansConfiguration c := by
  rw [ofDocument, documentReader_has.decode_eq_ok_iff hbare fun _ c h => nomatch h]
  refine isRecordOf_congr fun es => ?_
  rw [RecordReader.makes_sole_iff, ← found_some_iff]
  simp [documentReader, required_eq_ok_iff]

end Config

end ShardStore
