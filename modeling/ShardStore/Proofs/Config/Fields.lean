import Mathlib.Data.List.Nodup
import ShardStore.Config.Decoder
import ShardStore.Proofs.Config.Description

/-!
# Reading the fields of records

A field is kept in drafts and read by a decoder of its own. Where the fields of a draft are independent of each other, the
entries of a mapping are read into it just if all keys are scalars and each field has at most one value, which its decoder
reads; the order of the entries does not matter.
-/

namespace ShardStore

variable {α β δ : Type}

theorem bind_eq_ok_iff {ε : Type} {x : Except ε α} {f : α → Except ε β} {b : β} :
    x >>= f = .ok b ↔ ∃ a, x = .ok a ∧ f a = .ok b := by
  cases x with
  | error e => exact iff_of_false (fun h => nomatch h) fun ⟨_, h, _⟩ => nomatch h
  | ok a => exact ⟨fun h => ⟨a, rfl, h⟩, fun ⟨_, ha, h⟩ => Except.ok.inj ha ▸ h⟩

/-! ## Decoders -/

namespace Decoder

/-- Of a node, a decoder makes just what the node means. -/
def ReadsAt (decode : Decoder α) (R : Node → α → Prop) (n : Node) : Prop :=
  ∀ doc scope path a, decode doc scope path n = .ok a ↔ R n a

/-- A decoder makes of every tree without tags and aliases just what the tree means. -/
def Reads (decode : Decoder α) (R : Node → α → Prop) : Prop := ∀ n, n.IsBare → decode.ReadsAt R n

/-- The same of every such tree that is not null. -/
def ReadsUnlessNull (decode : Decoder α) (R : Node → α → Prop) : Prop :=
  ∀ n, n.IsBare → ¬n.IsNull → decode.ReadsAt R n

end Decoder

/-! ## Fields -/

/-- A field of drafts: where it is kept, how it is read, and what its values mean. -/
structure DraftField (δ : Type) where
  {α : Type}
  name : String
  get : δ → Option α
  put : δ → α → δ
  decode : Decoder α
  means : Node → α → Prop
  get_put : ∀ d a, get (put d a) = some a
  reads : decode.Reads means

/-- The fields of a draft do not share names or places, and there is no more to a draft than its fields. -/
structure Independent (fs : List (DraftField δ)) : Prop where
  names : (fs.map DraftField.name).Nodup
  get_put_other : ∀ f ∈ fs, ∀ g ∈ fs, f.name ≠ g.name → ∀ d a, g.get (f.put d a) = g.get d
  ext : ∀ d d', (∀ f ∈ fs, f.get d = f.get d') → d = d'

namespace Node

variable {key value : Node} {es : List (Node × Node)} {name : String}

theorem valuesOf_cons_of_eq (hkey : key.text? = some name) :
    valuesOf name ((key, value) :: es) = value :: valuesOf name es := by
  simp only [valuesOf, List.filter_cons, hkey, decide_true, if_true, List.map_cons]

theorem valuesOf_cons_of_ne (hkey : key.text? ≠ some name) : valuesOf name ((key, value) :: es) = valuesOf name es := by
  simp only [valuesOf, List.filter_cons, hkey, decide_false, Bool.false_eq_true, if_false]

/-- What a field of the meaning `R` holds once the entries were read: nothing, or the meaning of its value. -/
def Found (R : Node → α → Prop) (name : String) (es : List (Node × Node)) (o : Option α) : Prop :=
  match field? name es with
  | none => o = none
  | some v => ∃ a, R v a ∧ o = some a

end Node

namespace DraftField

variable {f : DraftField δ} {start d : δ} {key value : Node} {es : List (Node × Node)}

/-- The field as it is read. -/
def reader (f : DraftField δ) : FieldReader δ := .of f.name f.get f.put f.decode

/-- What the field is in the draft `d` to which entries were read from the draft `start`. -/
def ReadTo (f : DraftField δ) (start : δ) (es : List (Node × Node)) (d : δ) : Prop :=
  match Node.valuesOf f.name es with
  | [] => f.get d = f.get start
  | [v] => f.get start = none ∧ ∃ a, f.means v a ∧ f.get d = some a
  | _ => False

theorem readTo_congr {start' : δ} (hsame : f.get start = f.get start') : f.ReadTo start es d ↔ f.ReadTo start' es d := by
  rw [ReadTo, ReadTo, hsame]

theorem readTo_cons_of_ne (hkey : key.text? ≠ some f.name) : f.ReadTo start ((key, value) :: es) d ↔ f.ReadTo start es d := by
  rw [ReadTo, ReadTo, Node.valuesOf_cons_of_ne hkey]

theorem not_readTo_cons_of_taken (hkey : key.text? = some f.name) (htaken : f.get start ≠ none) :
    ¬f.ReadTo start ((key, value) :: es) d := by
  rw [ReadTo, Node.valuesOf_cons_of_eq hkey]
  cases Node.valuesOf f.name es with
  | nil => exact fun h => htaken h.1
  | cons v vs => exact id

theorem readTo_cons_of_eq (hkey : key.text? = some f.name) (hfree : f.get start = none) :
    f.ReadTo start ((key, value) :: es) d ↔ ∃ a, f.means value a ∧ f.ReadTo (f.put start a) es d := by
  simp only [ReadTo, Node.valuesOf_cons_of_eq hkey, f.get_put]
  cases Node.valuesOf f.name es with
  | nil => simp only [hfree, true_and]
  | cons v vs =>
      refine iff_of_false id ?_
      rintro ⟨a, -, hread⟩
      cases vs with
      | nil => cases hread.1
      | cons => exact hread

theorem readTo_iff_found (hfree : f.get start = none) :
    f.ReadTo start es d ↔ (Node.valuesOf f.name es).length ≤ 1 ∧ Node.Found f.means f.name es (f.get d) := by
  rw [ReadTo, Node.Found, Node.field?, hfree]
  match Node.valuesOf f.name es with
  | [] => simp
  | [v] => simp
  | v :: w :: vs => simp

end DraftField

section

variable {fs : List (DraftField δ)} {doc : Document} {scope : Scope} {start d : δ}

/-- Reading goes on behind a field with the rest of the entries, and with the field filled. -/
theorem readTo_all_iff (hfs : Independent fs) {f : DraftField δ} (hf : f ∈ fs) (hfree : f.get start = none)
    {key value : Node} {es : List (Node × Node)} (hkey : key.text? = some f.name) :
    (∀ g ∈ fs, g.ReadTo start ((key, value) :: es) d) ↔
      ∃ a, f.means value a ∧ ∀ g ∈ fs, g.ReadTo (f.put start a) es d := by
  -- the other fields see neither this entry nor the place of `f`
  have hother : ∀ g ∈ fs, g ≠ f → ∀ a, (g.ReadTo start ((key, value) :: es) d ↔ g.ReadTo (f.put start a) es d) := by
    intro g hg hne a
    have hname : f.name ≠ g.name := fun hname => hne (List.inj_on_of_nodup_map hfs.names hg hf hname.symm)
    rw [DraftField.readTo_cons_of_ne fun h => hname (Option.some.inj (hkey.symm.trans h))]
    exact DraftField.readTo_congr (hfs.get_put_other f hf g hg hname start a).symm
  constructor
  · intro hread
    obtain ⟨a, hmeans, hrest⟩ := (DraftField.readTo_cons_of_eq hkey hfree).1 (hread f hf)
    refine ⟨a, hmeans, fun g hg => ?_⟩
    by_cases hgf : g = f
    · exact hgf ▸ hrest
    · exact (hother g hg hgf a).1 (hread g hg)
  · rintro ⟨a, hmeans, hrest⟩ g hg
    by_cases hgf : g = f
    · subst hgf
      exact (DraftField.readTo_cons_of_eq hkey hfree).2 ⟨a, hmeans, hrest g hg⟩
    · exact (hother g hg hgf a).2 (hrest g hg)

theorem find?_reader (hfs : Independent fs) {f : DraftField δ} (hf : f ∈ fs) :
    (fs.map DraftField.reader).find? (·.name = f.name) = some f.reader := by
  cases hfind : (fs.map DraftField.reader).find? (·.name = f.name) with
  | none => exact absurd (decide_eq_true rfl) (List.find?_eq_none.1 hfind _ (List.mem_map_of_mem hf))
  | some r =>
      obtain ⟨g, hg, rfl⟩ := List.mem_map.1 (List.mem_of_find?_eq_some hfind)
      have hname : g.reader.name = f.name := by simpa using List.find?_some hfind
      rw [List.inj_on_of_nodup_map hfs.names hg hf hname]

variable {mark : NodeMark} {style : ScalarStyle} {value : Node} {es : List (Node × Node)}

theorem readEntries_cons_of_unknown {fields : List (FieldReader δ)} {name : String}
    (hunknown : ∀ f ∈ fields, f.name ≠ name) :
    readEntries fields doc scope start ((.scalar mark style name, value) :: es) =
      readEntries fields doc scope start es := by
  have hfind : fields.find? (·.name = name) = none :=
    List.find?_eq_none.2 fun f hf h => hunknown f hf (of_decide_eq_true h)
  simp only [readEntries, Document.follow, hfind]

/-- A field is read once, into a free place. -/
theorem readEntries_cons_of_field (hfs : Independent fs) {f : DraftField δ} (hf : f ∈ fs) (hvalue : value.IsBare) :
    readEntries (fs.map DraftField.reader) doc scope start ((.scalar mark style f.name, value) :: es) = .ok d ↔
      f.get start = none ∧ ∃ a, f.means value a ∧
        readEntries (fs.map DraftField.reader) doc scope (f.put start a) es = .ok d := by
  simp only [readEntries, Document.follow, find?_reader hfs hf]
  split
  · next htaken => exact iff_of_false (fun h => by cases h) fun h => Option.isSome_iff_ne_none.1 htaken h.1
  · next hfree =>
      have hnone : f.get start = none := Option.not_isSome_iff_eq_none.1 hfree
      have hread : ∀ b, f.reader.take start doc scope (scope.path ++ [f.name]) value = .ok b ↔
          ∃ a, f.means value a ∧ f.put start a = b := fun b =>
        bind_eq_ok_iff.trans (exists_congr fun a =>
          and_congr (f.reads value hvalue doc scope _ a) ⟨Except.ok.inj, congrArg Except.ok⟩)
      rw [bind_eq_ok_iff]
      simp only [hread]
      constructor
      · rintro ⟨_, ⟨a, ha, rfl⟩, hrest⟩
        exact ⟨hnone, a, ha, hrest⟩
      · rintro ⟨-, a, ha, hrest⟩
        exact ⟨_, ⟨a, ha, rfl⟩, hrest⟩

/-- The entries are read into a draft just if all keys are scalars and each field is read. The order does not matter. -/
theorem readEntries_eq_ok_iff (hfs : Independent fs) (hkeys : ∀ e ∈ es, e.1.IsBare) (hvalues : ∀ e ∈ es, e.2.IsBare) :
    readEntries (fs.map DraftField.reader) doc scope start es = .ok d ↔
      (∀ e ∈ es, e.1.IsScalar) ∧ ∀ f ∈ fs, f.ReadTo start es d := by
  induction es generalizing start with
  | nil =>
      constructor
      · intro hread
        obtain rfl := Except.ok.inj hread
        exact ⟨List.forall_mem_nil _, fun f _ => rfl⟩
      · rintro ⟨-, hread⟩
        exact congrArg Except.ok (hfs.ext _ _ fun f hf => (hread f hf).symm)
  | cons e es ih =>
      obtain ⟨key, value⟩ := e
      have hkey : key.IsBare := hkeys _ (List.mem_cons_self ..)
      have hvalue : value.IsBare := hvalues _ (List.mem_cons_self ..)
      have hrest : ∀ start, readEntries (fs.map DraftField.reader) doc scope start es = .ok d ↔
          (∀ e ∈ es, e.1.IsScalar) ∧ ∀ f ∈ fs, f.ReadTo start es d := fun _ =>
        ih (fun e he => hkeys e (List.mem_cons_of_mem _ he)) (fun e he => hvalues e (List.mem_cons_of_mem _ he))
      rw [List.forall_mem_cons, and_assoc]
      cases hkey with
      | @scalar mark style name =>
          have hscalar : (Node.scalar mark style name).IsScalar := Option.some_ne_none name
          rw [and_iff_right hscalar]
          -- a key is passed over, read into a free field, or refused since the field is taken
          by_cases hknown : ∃ f ∈ fs, f.name = name
          · obtain ⟨f, hf, rfl⟩ := hknown
            rw [readEntries_cons_of_field hfs hf hvalue]
            by_cases hfree : f.get start = none
            · rw [readTo_all_iff hfs hf hfree rfl]
              simp only [hrest, hfree, true_and]
              exact ⟨fun ⟨a, hmeans, hscalars, hread⟩ => ⟨hscalars, a, hmeans, hread⟩,
                fun ⟨hscalars, a, hmeans, hread⟩ => ⟨a, hmeans, hscalars, hread⟩⟩
            · exact iff_of_false (fun h => hfree h.1) fun h =>
                DraftField.not_readTo_cons_of_taken rfl hfree (h.2 f hf)
          · have hunknown : ∀ f ∈ fs, f.name ≠ name := fun f hf hname => hknown ⟨f, hf, hname⟩
            rw [readEntries_cons_of_unknown (List.forall_mem_map.2 hunknown), hrest]
            refine and_congr_right fun _ => forall₂_congr fun f hf => (DraftField.readTo_cons_of_ne ?_).symm
            exact fun h => hunknown f hf (Option.some.inj h).symm
      | sequence | mapping => exact iff_of_false (fun h => nomatch h) fun h => h.1 rfl

end

/-! ## Records -/

namespace RecordReader

variable {r : RecordReader δ α} {fs : List (DraftField δ)} {doc : Document} {scope : Scope} {path : List String} {n : Node}
  {a : α}

/-- The fields of a reader of records, none of which it has read at the start. -/
structure Has (r : RecordReader δ α) (fs : List (DraftField δ)) : Prop where
  fields : r.fields = fs.map DraftField.reader
  independent : Independent fs
  start : ∀ f ∈ fs, f.get r.start = none

/-- What becomes of entries once each field holds what it means. -/
def Makes (r : RecordReader δ α) (fs : List (DraftField δ)) (es : List (Node × Node)) (a : α) : Prop :=
  ∃ d, (∀ f ∈ fs, Node.Found f.means f.name es (f.get d)) ∧ r.finish d = .ok a

theorem Has.readEntries_iff (hr : r.Has fs) {es : List (Node × Node)} (hkeys : ∀ e ∈ es, e.1.IsBare)
    (hvalues : ∀ e ∈ es, e.2.IsBare) {d : δ} :
    readEntries r.fields doc scope r.start es = .ok d ↔
      Node.IsRecord (fs.map DraftField.name) es ∧ ∀ f ∈ fs, Node.Found f.means f.name es (f.get d) := by
  rw [hr.fields, readEntries_eq_ok_iff hr.independent hkeys hvalues]
  have hone : ∀ f ∈ fs, f.ReadTo r.start es d ↔
      (Node.valuesOf f.name es).length ≤ 1 ∧ Node.Found f.means f.name es (f.get d) := fun f hf =>
    DraftField.readTo_iff_found (hr.start f hf)
  constructor
  · rintro ⟨hscalars, hread⟩
    exact ⟨⟨hscalars, List.forall_mem_map.2 fun f hf => ((hone f hf).1 (hread f hf)).1⟩,
      fun f hf => ((hone f hf).1 (hread f hf)).2⟩
  · rintro ⟨⟨hscalars, honce⟩, hfound⟩
    exact ⟨hscalars, fun f hf => (hone f hf).2 ⟨honce _ (List.mem_map_of_mem hf), hfound f hf⟩⟩

/-- What a reader makes of the entries of a node. -/
def read (r : RecordReader δ α) (doc : Document) (path : List String) (pos : Position) (es : List (Node × Node)) :
    Except Fault α := do
  let draft ← readEntries r.fields doc ⟨path, pos⟩ r.start es
  match r.finish draft with
  | .ok value => return value
  | .error field => throw ⟨path, .missing field, pos⟩

theorem read_eq_ok_iff {pos : Position} {es : List (Node × Node)} :
    r.read doc path pos es = .ok a ↔
      ∃ d, readEntries r.fields doc ⟨path, pos⟩ r.start es = .ok d ∧ r.finish d = .ok a := by
  rw [read, bind_eq_ok_iff]
  refine exists_congr fun d => and_congr_right fun _ => ?_
  cases r.finish d with
  | ok value => simp only [pure, Except.pure, Except.ok.injEq]
  | error field => exact iff_of_false (fun h => nomatch h) fun h => nomatch h

theorem decode_mapping {mark : NodeMark} {es : List (Node × Node)} :
    r.decode doc scope path (.mapping mark es) = r.read doc path mark.pos es := rfl

theorem decode_scalar {mark : NodeMark} {style : ScalarStyle} {s : String}
    (hdecode : r.decode doc scope path (.scalar mark style s) = .ok a) :
    (Node.scalar mark style s).IsNull ∧ r.finish r.start = .ok a := by
  rw [decode] at hdecode
  simp only [Document.follow] at hdecode
  split at hdecode
  · next h => cases h
  · next h =>
      cases h
      obtain ⟨d, hread, hfinish⟩ := read_eq_ok_iff.1 hdecode
      obtain rfl := Except.ok.inj hread
      exact ⟨List.mem_cons_self .., hfinish⟩
  · cases hdecode

/-- A record is read from a mapping. In place of an empty one nothing at all may stand, if no field is missing then. -/
theorem Has.decode_eq_ok_iff (hr : r.Has fs) (hbare : n.IsBare) (hnull : n.IsNull → ∀ a, r.finish r.start ≠ .ok a) :
    r.decode doc scope path n = .ok a ↔ n.IsRecordOf (fs.map DraftField.name) (r.Makes fs · a) := by
  cases hbare with
  | @scalar mark style s =>
      refine iff_of_false (fun hdecode => ?_) fun ⟨_, _, h, _⟩ => nomatch h
      obtain ⟨hn, hfinish⟩ := decode_scalar hdecode
      exact hnull hn a hfinish
  | sequence =>
      exact iff_of_false (fun h => nomatch h) fun ⟨_, _, h, _⟩ => nomatch h
  | @mapping mark es _ hkeys hvalues =>
      rw [decode_mapping, read_eq_ok_iff]
      simp only [hr.readEntries_iff hkeys hvalues]
      constructor
      · rintro ⟨d, ⟨hrecord, hfound⟩, hfinish⟩
        exact ⟨mark, es, rfl, hrecord, d, hfound, hfinish⟩
      · rintro ⟨_, _, heq, hrecord, d, hfound, hfinish⟩
        cases heq
        exact ⟨d, ⟨hrecord, hfound⟩, hfinish⟩

theorem Has.readsUnlessNull (hr : r.Has fs) {P : List (Node × Node) → α → Prop} (hmakes : ∀ es a, r.Makes fs es a ↔ P es a) :
    r.decode.ReadsUnlessNull fun n a => n.IsRecordOf (fs.map DraftField.name) (P · a) := by
  intro n hbare hnull doc scope path a
  rw [hr.decode_eq_ok_iff hbare fun h => absurd h hnull]
  exact Node.isRecordOf_congr fun es => hmakes es a

end RecordReader

end ShardStore
