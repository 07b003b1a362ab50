import ShardStore.Counted.Run
import ShardStore.KeySet
import ShardStore.Proofs.Construction
import ShardStore.Proofs.Sharded.Isolation

/-!
# What errors tell

An error is a bare one, or batches wrapped around a bare one, and its condition is that of the bare one. What a call returns is
wrapped at most once, and that only by a batch over routed hashes; it names no key but one that the call was given.
-/

namespace ShardStore

namespace StoreError

/-! ## Any error -/

/-- An error is `last`, which is not a batch, wrapped in batches of these buckets. Its causes are each the source of the one
before it, one for each batch, and they end in `last`, which has the condition of the whole. -/
structure Wraps (e : StoreError) (buckets : List UInt64) (last : StoreError) : Prop where
  eq : e = buckets.foldr .batch last
  bare : ∀ bucket source, last ≠ .batch bucket source
  depth : e.causes.length = buckets.length
  chain : (e :: e.causes).IsChain fun outer inner => outer.source? = some inner
  ends : (e :: e.causes).getLast? = some last
  kind : e.kind = last.kind

theorem causes_of_bare {e : StoreError} (hbare : ∀ bucket source, e ≠ .batch bucket source) : e.causes = [] := by
  cases e with
  | batch bucket source => exact absurd rfl (hbare bucket source)
  | _ => rfl

theorem wraps_self {e : StoreError} (hbare : ∀ bucket source, e ≠ .batch bucket source) : e.Wraps [] e where
  eq := rfl
  bare := hbare
  depth := congrArg List.length (causes_of_bare hbare)
  chain := by rw [causes_of_bare hbare]; exact .singleton e
  ends := by rw [causes_of_bare hbare]; rfl
  kind := rfl

theorem Wraps.batch {e last : StoreError} {buckets : List UInt64} (hwraps : e.Wraps buckets last) (bucket : UInt64) :
    (StoreError.batch bucket e).Wraps (bucket :: buckets) last where
  eq := by rw [List.foldr_cons, ← hwraps.eq]
  bare := hwraps.bare
  depth := congrArg (· + 1) hwraps.depth
  chain := .cons_cons rfl hwraps.chain
  ends := (List.getLast?_cons_cons ..).trans hwraps.ends
  kind := hwraps.kind

theorem exists_wraps (e : StoreError) : ∃ buckets last, e.Wraps buckets last := by
  induction e with
  | batch bucket source ih =>
      obtain ⟨buckets, last, hwraps⟩ := ih
      exact ⟨bucket :: buckets, last, hwraps.batch bucket⟩
  | _ => exact ⟨[], _, wraps_self (by simp)⟩

theorem existsUnique_hasKind (e : StoreError) : ∃! k, e.hasKind k = true :=
  ⟨e.kind, decide_eq_true rfl, fun _ hk => (of_decide_eq_true hk).symm⟩

/-! ## Errors of calls -/

/-- The key that is said to be there, or not to be. -/
def key? : StoreError → Option String
  | .present key | .absent key => some key
  | .batch _ source => source.key?
  | .noBucket .. | .foreign .. => none

/-- An error as a call may return it: wrapped at most once, and that only if `batched`; about a key of another bucket only if
`misrouted`; and naming no key but one of `keys`. -/
structure Raised (e : StoreError) (keys : List String) (batched misrouted : Prop) : Prop where
  depth : e.causes.length ≤ 1
  batched : e.causes.length = 1 → batched
  misrouted : e.kind = .foreign → misrouted
  named : ∀ key, e.key? = some key → key ∈ keys

/-- An error about a slot or about one of `keys`. -/
inductive Direct (keys : List String) : StoreError → Prop where
  | noBucket (bucket max : UInt64) : Direct keys (.noBucket bucket max)
  | present {key : String} (hkey : key ∈ keys) : Direct keys (.present key)
  | absent {key : String} (hkey : key ∈ keys) : Direct keys (.absent key)

variable {e : StoreError} {keys : List String} {batched misrouted : Prop}

theorem Direct.causes_eq (hdirect : e.Direct keys) : e.causes = [] := by cases hdirect <;> rfl

theorem Direct.kind_ne_foreign (hdirect : e.Direct keys) : e.kind ≠ .foreign := by cases hdirect <;> simp [kind]

theorem Direct.mem_of_key? (hdirect : e.Direct keys) {key : String} (hkey : e.key? = some key) : key ∈ keys := by
  cases hdirect with
  | noBucket => cases hkey
  | present hmem | absent hmem =>
      cases hkey
      exact hmem

theorem Direct.raised (hdirect : e.Direct keys) : e.Raised keys batched misrouted where
  depth := by rw [hdirect.causes_eq]; exact Nat.zero_le 1
  batched hone := by rw [hdirect.causes_eq] at hone; cases hone
  misrouted hforeign := absurd hforeign hdirect.kind_ne_foreign
  named _ hkey := hdirect.mem_of_key? hkey

theorem Direct.raised_batch (hdirect : e.Direct keys) (hbatched : batched) (bucket : UInt64) :
    (batch bucket e).Raised keys batched misrouted where
  depth := by rw [causes, hdirect.causes_eq, List.length_singleton]
  batched _ := hbatched
  misrouted hforeign := absurd hforeign hdirect.kind_ne_foreign
  named _ hkey := hdirect.mem_of_key? hkey

theorem raised_foreign (hmisrouted : misrouted) (key bucket routed : UInt64) :
    (foreign key bucket routed).Raised keys batched misrouted where
  depth := Nat.zero_le 1
  batched hone := by cases hone
  misrouted _ := hmisrouted
  named _ hkey := by cases hkey

end StoreError

/-! ## Stores and sets -/

namespace Store

variable {τ : Type} [Table τ Hash UInt64] {s : Store τ} {h : Hash} {v : UInt64} {e : StoreError}

theorem set_error (herror : (s.set h v).1 = .error e) : e = .absent h.toText := by
  rw [set] at herror
  split at herror <;> cases herror
  rfl

theorem delete_error (herror : (s.delete h).1 = .error e) : e = .absent h.toText := by
  rw [delete] at herror
  split at herror <;> cases herror
  rfl

theorem direct_of_error (op : MapOp) (herror : (op.step s).1 = .outcome (.error e)) :
    e.Direct (op.hashes.map Hash.toText) := by
  have hone (h : Hash) : h.toText ∈ [h].map Hash.toText := List.mem_singleton.2 rfl
  cases op with
  | put h v =>
      rw [put_error (MapAnswer.outcome.inj herror)]
      exact .present (hone h)
  | putAll hs v =>
      obtain ⟨x, hx, rfl⟩ := putAll_error (MapAnswer.outcome.inj herror)
      exact .present (List.mem_map_of_mem hx)
  | set h v =>
      rw [set_error (MapAnswer.outcome.inj herror)]
      exact .absent (hone h)
  | delete h =>
      rw [delete_error (MapAnswer.outcome.inj herror)]
      exact .absent (hone h)
  | get | contains | setIfPresent | setIfAbsent | size | keys | walk => cases herror

end Store

/-- The hashes that an operation on a set is about. -/
def SetOp.hashes : SetOp → List Hash
  | .put h | .get h | .contains h | .delete h => [h]
  | .putAll hs => hs
  | .size | .keys | .walk _ => []

theorem KeySet.direct_of_error {σ : Type} [Table σ Hash Unit] {s : KeySet σ} {e : StoreError} (op : SetOp)
    (herror : (op.step s).1 = .outcome (.error e)) : e.Direct (op.hashes.map Hash.toText) := by
  cases op with
  | delete h =>
      have herror : (s.delete h).1 = .error e := SetAnswer.outcome.inj herror
      rw [delete] at herror
      split at herror <;> cases herror
      exact .absent (List.mem_singleton.2 rfl)
  | put | putAll | get | contains | size | keys | walk => cases herror

/-! ## Sharded maps -/

theorem MapOp.onMissing_error {op : MapOp} {e error : StoreError} (herror : op.onMissing error = .outcome (.error e)) :
    e = error := by
  cases op <;> cases herror <;> rfl

/-- The hashes that an operation on a sharded map is about. -/
def ShardedOp.hashes : ShardedOp → List Hash
  | .map op => op.hashes
  | .putAllIn _ hs _ => hs
  | .removeBucket _ | .flatten => []

namespace Sharded

variable {τ : Type} [Table τ Hash UInt64] {m : Sharded τ} {h x : Hash} {hs : List Hash} {v : UInt64} {e : StoreError}

/-- A batch stops at `x`: the hashes before it are put, it is refused itself, and `e` wraps the refusal with its bucket. -/
structure StoppedBy (m : Sharded τ) (hs : List Hash) (v : UInt64) (x : Hash) (e : StoreError) : Prop where
  refused : ∃ p rest source, hs = p ++ x :: rest ∧ (m.putAll p v).1 = .ok () ∧
    ((m.putAll p v).2.put x v).1 = .error source ∧ e = .batch (m.bucketFor x).toUInt64 source
  kind : e.kind = .present ∨ e.kind = .noBucket

omit [Table τ Hash UInt64] in
theorem tryOnSlot_error {b : UInt16} {work : Store τ → Outcome × Store τ} (herror : (m.tryOnSlot b work).1 = .error e) :
    e = m.missing b ∨ ∃ s, m.slot? b = some s ∧ (work s).1 = .error e := by
  rw [tryOnSlot_eq] at herror
  cases hslot : m.slot? b with
  | none =>
      simp only [hslot, Except.error.injEq] at herror
      exact Or.inl herror.symm
  | some s =>
      simp only [hslot] at herror
      exact Or.inr ⟨s, rfl, herror⟩

theorem put_error (herror : (m.put h v).1 = .error e) : e = m.missing (m.bucketFor h) ∨ e = .present h.toText := by
  rcases tryOnSlot_error herror with hmissing | ⟨s, -, herror⟩
  · exact Or.inl hmissing
  · exact Or.inr (Store.put_error herror)

theorem stoppedBy_head (herror : (m.put h v).1 = .error e) (hs : List Hash) :
    m.StoppedBy (h :: hs) v h (.batch (m.bucketFor h).toUInt64 e) where
  refused := ⟨[], hs, e, rfl, rfl, herror, rfl⟩
  kind := by rcases put_error herror with rfl | rfl <;> simp [missing, StoreError.kind]

theorem StoppedBy.cons (hstopped : (m.put h v).2.StoppedBy hs v x e) (hput : (m.put h v).1 = .ok ()) :
    m.StoppedBy (h :: hs) v x e where
  refused := by
    obtain ⟨p, rest, source, rfl, hdone, hrefused, rfl⟩ := hstopped.refused
    -- the batch goes on in the map that the put leaves, which routes as before
    have hroute : (m.put h v).2.bucketFor x = m.bucketFor x := congrArg x.bucket (m.buckets_step (.put h v))
    refine ⟨h :: p, rest, source, rfl, ?_, ?_, by rw [hroute]⟩ <;> rw [putAll_of_put_ok hput]
    · exact hdone
    · exact hrefused
  kind := hstopped.kind

theorem stoppedBy_of_error (herror : (m.putAll hs v).1 = .error e) : ∃ x, m.StoppedBy hs v x e := by
  induction hs generalizing m with
  | nil => cases herror
  | cons h hs ih =>
      cases hput : (m.put h v).1 with
      | error source =>
          rw [putAll_of_put_error hput] at herror
          cases herror
          exact ⟨h, stoppedBy_head hput hs⟩
      | ok =>
          rw [putAll_of_put_ok hput] at herror
          obtain ⟨x, hstopped⟩ := ih herror
          exact ⟨x, hstopped.cons hput⟩

theorem StoppedBy.raised {batched misrouted : Prop} (hstopped : m.StoppedBy hs v x e) (hbatched : batched) :
    e.Raised (hs.map Hash.toText) batched misrouted := by
  obtain ⟨p, rest, source, rfl, -, hrefused, rfl⟩ := hstopped.refused
  have hmem : x.toText ∈ (p ++ x :: rest).map Hash.toText := List.mem_map_of_mem (by simp)
  have hdirect : source.Direct ((p ++ x :: rest).map Hash.toText) := by
    rcases put_error hrefused with rfl | rfl
    · exact .noBucket _ _
    · exact .present hmem
  exact hdirect.raised_batch hbatched _

theorem direct_of_single {op : MapOp} (hsingle : op.hash? = some h) (herror : (op.step m).1 = .outcome (.error e)) :
    e.Direct (op.hashes.map Hash.toText) := by
  cases hslot : m.slot? (m.bucketFor h) with
  | none =>
      rw [step_of_missing hsingle hslot] at herror
      rw [MapOp.onMissing_error herror]
      exact .noBucket _ _
  | some s =>
      rw [step_of_live hsingle hslot] at herror
      rcases s.stepInSlot_cases op with heq | ⟨h, rfl, -, heq⟩
      · rw [heq] at herror
        exact Store.direct_of_error op herror
      · rw [heq] at herror
        cases herror
        exact .absent (List.mem_singleton.2 rfl)

theorem direct_of_putAllIn {b : UInt16} (herror : (m.putAllIn b hs v).1 = .error e) : e.Direct (hs.map Hash.toText) := by
  rcases tryOnSlot_error herror with rfl | ⟨s, -, herror⟩
  · exact .noBucket _ _
  · exact Store.direct_of_error (.putAll hs v) (congrArg MapAnswer.outcome herror)

/-- The operation is a batch over routed hashes, and `e` is how it stops. -/
def StopsBatch (m : Sharded τ) (op : ShardedOp) (e : StoreError) : Prop :=
  ∃ hs v x, op = .map (.putAll hs v) ∧ m.StoppedBy hs v x e

theorem raised_of_error (op : ShardedOp) (herror : (op.step m).1 = .map (.outcome (.error e))) :
    e.Raised (op.hashes.map Hash.toText) (m.StopsBatch op e) False := by
  cases op with
  | map op =>
      replace herror : (op.step m).1 = .outcome (.error e) := ShardedAnswer.map.inj herror
      cases hop : op.hash? with
      | some h => exact (direct_of_single hop herror).raised
      | none =>
          cases op <;> simp only [MapOp.hash?, reduceCtorEq] at hop
          case size | keys | walk => cases herror
          case putAll hs v =>
            obtain ⟨x, hstopped⟩ := stoppedBy_of_error (MapAnswer.outcome.inj herror)
            exact hstopped.raised ⟨hs, v, x, rfl, hstopped⟩
  | putAllIn b hs v => exact (direct_of_putAllIn (MapAnswer.outcome.inj (ShardedAnswer.map.inj herror))).raised
  | removeBucket | flatten => cases herror

end Sharded

/-! ## Counted stores -/

/-- The keys that an operation on a counted store is about. -/
def Counted.Op.keys : Counted.Op → List UInt64
  | .put key _ | .get key | .contains key => [key]
  | .size => []

/-- The keys that an operation on a writer is about. -/
def WriterOp.keys : WriterOp → List UInt64
  | .owns key | .put key _ => [key]
  | .bucket | .size => []

/-- The keys that an operation on a sharded counted store is about. -/
def CountedOp.keys : CountedOp → List UInt64
  | .put key _ | .get key | .contains key => [key]
  | .size => []
  | .writer _ op => op.keys

section

variable {τ : Type} [Table τ UInt64 UInt64] {key value : UInt64} {e : StoreError}

theorem Counted.direct_of_put {s : Counted τ} (herror : (s.put key value).1 = .error e) : e.Direct [toString key] := by
  rw [put_error herror]
  exact .present (List.mem_singleton.2 rfl)

theorem Counted.direct_of_error {s : Counted τ} (op : Counted.Op) (herror : (op.step s).1.error? = some e) :
    e.Direct (op.keys.map toString) := by
  cases op with
  | put key value => exact direct_of_put (CountedAnswer.error?_outcome_eq_some.1 herror)
  | get | contains | size => cases herror

namespace CountedShards

/-- The operation hands a writer a key of another bucket, and `e` says so. -/
def Misroutes (m : CountedShards τ) (op : CountedOp) (e : StoreError) : Prop :=
  ∃ i key value, i < m.buckets.toNat ∧ op = .writer i (.put key value) ∧ m.bucketFor key ≠ .ofNat i ∧
    e = .foreign key (.ofNat i) (m.bucketFor key)

theorem raised_of_error {m : CountedShards τ} (op : CountedOp) (herror : (op.step m).1.error? = some e) :
    e.Raised (op.keys.map toString) False (m.Misroutes op e) := by
  cases op with
  | get | contains | size => cases herror
  | put key value =>
      have hput : (m.put key value).1 = .error e := CountedAnswer.error?_outcome_eq_some.1 herror
      rw [put_eq] at hput
      exact (Counted.direct_of_put hput).raised
  | writer i op =>
      by_cases hi : i < m.buckets.toNat
      · cases op with
        | bucket | owns | size =>
            rw [CountedOp.step_writer m ⟨i, hi⟩, onWriter_eq] at herror
            cases herror
        | put key value =>
            by_cases hroute : m.bucketFor key = .ofNat i
            · have htoNat : (m.bucketFor key).toNat = i := by rw [hroute, toNat_ofNat (Nat.lt_succ_of_lt hi)]
              rw [CountedOp.step_writer_put_of_owned htoNat, CountedAnswer.error?_writer_eq_some, put_eq] at herror
              exact (Counted.direct_of_put herror).raised
            · rw [CountedOp.step_writer_put_of_foreign (i := ⟨i, hi⟩) hroute] at herror
              cases herror
              exact StoreError.raised_foreign ⟨i, key, value, hi, rfl, hroute, rfl⟩ ..
      · rw [CountedOp.step, dif_neg hi] at herror
        cases herror

end CountedShards

end

/-- Every error ends in one that is not a batch, at the end of as many causes as it has batches, and has the condition of that
one and no other. In any run, what a call returns is wrapped at most once, and that only where a batch over routed hashes
stopped, with the bucket of the hash that is there already or whose slot is missing; it is about a key of another bucket only
where a writer was given one; and the key that it says is there or is not there is one of the call itself. -/
theorem errors_tell_their_cause {τ σ ν : Type} [Table τ Hash UInt64] [Table σ Hash Unit] [Table ν UInt64 UInt64] :
    (∀ e : StoreError, (∃ buckets last, e.Wraps buckets last) ∧ ∃! k, e.hasKind k = true) ∧
    (∀ (s : Store τ) ops (op : MapOp) e, (op.step (MapOp.run s ops).2).1 = .outcome (.error e) →
      e.Raised (op.hashes.map Hash.toText) False False) ∧
    (∀ (s : KeySet σ) ops (op : SetOp) e, (op.step (SetOp.run s ops).2).1 = .outcome (.error e) →
      e.Raised (op.hashes.map Hash.toText) False False) ∧
    (∀ (m : Sharded τ) ops (op : ShardedOp) e,
      let m' := (ShardedOp.run m ops).2
      (op.step m').1 = .map (.outcome (.error e)) → e.Raised (op.hashes.map Hash.toText) (m'.StopsBatch op e) False) ∧
    (∀ (s : Counted ν) ops (op : Counted.Op) e, (op.step (Counted.Op.run s ops).2).1.error? = some e →
      e.Raised (op.keys.map toString) False False) ∧
    ∀ (m : CountedShards ν) ops (op : CountedOp) e,
      let m' := (CountedOp.run m ops).2
      (op.step m').1.error? = some e → e.Raised (op.keys.map toString) False (m'.Misroutes op e) := by
  refine ⟨fun e => ⟨e.exists_wraps, e.existsUnique_hasKind⟩, ?_, ?_, ?_, ?_, ?_⟩
  · exact fun s ops op e herror => (Store.direct_of_error op herror).raised
  · exact fun s ops op e herror => (KeySet.direct_of_error op herror).raised
  · exact fun m ops op e herror => Sharded.raised_of_error op herror
  · exact fun s ops op e herror => (Counted.direct_of_error op herror).raised
  · exact fun m ops op e herror => CountedShards.raised_of_error op herror

/-- A hash put twice over, one taken out that is not there, a batch that comes to a missing slot at its second hash, a number
put twice over, and a writer with a number of another bucket. -/
theorem told_by_errors_of_each_map :
    let a := Hash.ofBytes [0, 2]
    let c := Hash.ofBytes [0, 1]
    let s := (MapOp.run (.withCapacity 4 : Store (EntryList Hash UInt64)) [.put a 1]).2
    let t := (SetOp.run (.withCapacity 4 : KeySet (EntryList Hash Unit)) [.put c]).2
    let m := (ShardedOp.run (.withBuckets 4 2 : Sharded (EntryList Hash UInt64)) [.removeBucket 1]).2
    let r := (Counted.Op.run (.withCapacity 4 : Counted (EntryList UInt64 UInt64)) [.put 4 1]).2
    let n := (CountedOp.run (.withBuckets 4 2 : CountedShards (EntryList UInt64 UInt64)) []).2
    (∃ e, ((MapOp.putAll [c, a] 2).step s).1 = .outcome (.error e) ∧ e.Raised ([c, a].map Hash.toText) False False) ∧
    (∃ e, ((SetOp.delete a).step t).1 = .outcome (.error e) ∧ e.Raised ([a].map Hash.toText) False False) ∧
    (∃ e, ((ShardedOp.map (.putAll [a, c, a] 7)).step m).1 = .map (.outcome (.error e)) ∧
      e.causes = [.noBucket 1 2] ∧ m.StopsBatch (.map (.putAll [a, c, a] 7)) e) ∧
    (∃ e, ((Counted.Op.put 4 2).step r).1.error? = some e ∧ e.Raised ["4"] False False) ∧
    ∃ e, ((CountedOp.writer 1 (.put 4 7)).step n).1.error? = some e ∧ n.Misroutes (.writer 1 (.put 4 7)) e := by
  intro a c s t m r n
  obtain ⟨-, hstore, hset, hsharded, hcounted, hshards⟩ :=
    errors_tell_their_cause (τ := EntryList Hash UInt64) (σ := EntryList Hash Unit) (ν := EntryList UInt64 UInt64)
  have hbatch (m : Sharded (EntryList Hash UInt64)) (hs : List Hash) (v : UInt64) :
      ((ShardedOp.map (.putAll hs v)).step m).1 = .map (.outcome (m.putAll hs v).1) := rfl
  have hstops : (m.putAll [a, c, a] 7).1 = .error (.batch 1 (.noBucket 1 2)) := by decide
  have hanswer := (hbatch m [a, c, a] 7).trans (by rw [hstops])
  have hforeign : ((CountedOp.writer 1 (.put 4 7)).step n).1.error? = some (.foreign 4 1 0) := by decide
  refine ⟨⟨.present a.toText, rfl, ?_⟩, ⟨.absent a.toText, rfl, ?_⟩, ⟨_, hanswer, rfl, ?_⟩, ⟨.present "4", rfl, ?_⟩,
    ⟨_, hforeign, ?_⟩⟩
  · exact hstore (.withCapacity 4) [.put a 1] (.putAll [c, a] 2) _ rfl
  · exact hset (.withCapacity 4) [.put c] (.delete a) _ rfl
  · exact (hsharded (.withBuckets 4 2) [.removeBucket 1] (.map (.putAll [a, c, a] 7)) _ hanswer).batched rfl
  · exact hcounted (.withCapacity 4) [.put 4 1] (.put 4 2) _ rfl
  · exact (hshards (.withBuckets 4 2) [] (.writer 1 (.put 4 7)) _ hforeign).misrouted rfl

end ShardStore
