import ShardStore.Proofs.Counted.Shards

/-!
# Writers that take turns

The writers of a split map share nothing. Each answers, and fills its bucket, as if it were alone, so it does not matter in which
order they get their turns.
-/

namespace ShardStore

/-! ## Turns -/

section

variable {α : Type}

/-- What the `i`-th of several who take turns has among the turns, in order. -/
def turnsOf (i : Nat) (turns : List (Nat × α)) : List α := (turns.filter (·.1 = i)).map Prod.snd

theorem turnsOf_cons (i j : Nat) (a : α) (turns : List (Nat × α)) :
    turnsOf i ((j, a) :: turns) = if j = i then a :: turnsOf i turns else turnsOf i turns := by
  by_cases hj : j = i <;> simp [turnsOf, hj]

/-- The turns are those of the programs, each in its own order. -/
def Interleaves (programs : Nat → List α) (turns : List (Nat × α)) : Prop := ∀ i, turnsOf i turns = programs i

end

/-- What a writer does that is alone. -/
def WriterOp.run {τ : Type} [Table τ UInt64 UInt64] (w : Writer τ) : List WriterOp → List WriterAnswer × Writer τ
  | [] => ([], w)
  | op :: ops =>
    let (answer, w) := op.step w
    let (answers, w) := run w ops
    (answer :: answers, w)

namespace CountedShards

variable {τ : Type} [Table τ UInt64 UInt64] {m n : CountedShards τ} {i : Nat}

/-- The writers get their turns. Each answer stands with the number of the writer that gave it. -/
def byTurns (m : CountedShards τ) (turns : List (Nat × WriterOp)) : List (Nat × CountedAnswer) × CountedShards τ :=
  let (answers, m) := CountedOp.run m (turns.map fun t => .writer t.1 t.2)
  ((turns.map Prod.fst).zip answers, m)

theorem byTurns_cons (m : CountedShards τ) (j : Nat) (op : WriterOp) (turns : List (Nat × WriterOp)) :
    m.byTurns ((j, op) :: turns) =
      let (answer, m) := (CountedOp.writer j op).step m
      ((j, answer) :: (m.byTurns turns).1, (m.byTurns turns).2) := rfl

/-! ## The writers of a map -/

omit [Table τ UInt64 UInt64] in
theorem getElem?_writers_iff {w : Writer τ} : m.writers[i]? = some w ↔ ∃ hi : i < m.buckets.toNat, m.writer ⟨i, hi⟩ = w := by
  rw [writers, Array.getElem?_ofFn]
  split
  · next hi => simp [hi]
  · next hi => simp [hi]

omit [Table τ UInt64 UInt64] in
theorem getElem?_writers (m : CountedShards τ) (i : Nat) :
    m.writers[i]? = if i < m.buckets.toNat then (m.store? (.ofNat i)).map (⟨.ofNat i, m.buckets, ·⟩) else none := by
  rw [writers, Array.getElem?_ofFn]
  split
  · next hi =>
      rw [m.store?_writer ⟨i, hi⟩]
      rfl
  · rfl

omit [Table τ UInt64 UInt64] in
theorem ofNat_ne_buckets (hi : i < m.buckets.toNat) : UInt64.ofNat i ≠ m.buckets := by
  intro hsame
  have hnum := congrArg UInt64.toNat hsame
  rw [toNat_ofNat (Nat.lt_succ_of_lt hi)] at hnum
  exact Nat.ne_of_lt hi hnum

omit [Table τ UInt64 UInt64] in
theorem ofNat_inj_iff {j : Nat} (hi : i < m.buckets.toNat) (hj : j < m.buckets.toNat) :
    UInt64.ofNat j = UInt64.ofNat i ↔ j = i := by
  refine ⟨fun hsame => ?_, fun hsame => congrArg _ hsame⟩
  have hnum := congrArg UInt64.toNat hsame
  rwa [toNat_ofNat (Nat.lt_succ_of_lt hi), toNat_ofNat (Nat.lt_succ_of_lt hj)] at hnum

omit [Table τ UInt64 UInt64] in
theorem getElem?_writers_withStore {j : Nat} (hj : j < m.buckets.toNat) (s : Counted τ) (i : Nat) :
    (m.withStore (.ofNat j) s).writers[i]? = if j = i then some ⟨.ofNat j, m.buckets, s⟩ else m.writers[i]? := by
  have hbuckets : (m.withStore (.ofNat j) s).buckets = m.buckets := rfl
  rw [getElem?_writers, getElem?_writers, hbuckets, store?_withStore (m.store?_writer ⟨j, hj⟩)]
  by_cases hi : i < m.buckets.toNat
  · by_cases hji : j = i
    · subst hji
      rw [if_pos hi, if_pos rfl, if_pos rfl]
      rfl
    · rw [if_neg hji, if_neg (mt (ofNat_inj_iff hi hj).1 hji)]
  · have hji : j ≠ i := fun hji => hi (hji ▸ hj)
    rw [if_neg hi, if_neg hi, if_neg hji]

omit [Table τ UInt64 UInt64] in
/-- A map is its writers and the spare store. -/
theorem ext_writers {m m' : CountedShards τ} (hbuckets : m.buckets = m'.buckets)
    (hwriters : ∀ i : Nat, m.writers[i]? = m'.writers[i]?) (hspare : m.store? m.buckets = m'.store? m.buckets) :
    m = m' := by
  obtain ⟨buckets, hpos, stores⟩ := m
  obtain ⟨buckets', hpos', stores'⟩ := m'
  obtain rfl : buckets = buckets' := hbuckets
  have hstores : stores = stores' := by
    refine Vector.ext fun i hi => ?_
    rcases Nat.lt_succ_iff_lt_or_eq.1 hi with hlt | rfl
    · have hwriter := hwriters i
      rw [getElem?_writers, getElem?_writers, if_pos hlt, if_pos hlt, store?_ofNat hi, store?_ofNat hi] at hwriter
      exact congrArg Writer.store (Option.some.inj hwriter)
    · have hlast := hspare
      rw [store?, store?, Vector.getElem?_eq_getElem hi, Vector.getElem?_eq_getElem hi] at hlast
      exact Option.some.inj hlast
  rw [hstores]

/-! ## One turn -/

theorem step_snd_eq (w : Writer τ) (op : WriterOp) : (op.step w).2 = { w with store := (op.step w).2.store } := by
  cases op with
  | put key value =>
      simp only [WriterOp.step, Writer.put]
      split <;> rfl
  | bucket | owns | size => rfl

theorem step_turn {j : Nat} (hj : j < m.buckets.toNat) (op : WriterOp) :
    (CountedOp.writer j op).step m =
      (.writer (some (op.step (m.writer ⟨j, hj⟩)).1), m.withStore (.ofNat j) (op.step (m.writer ⟨j, hj⟩)).2.store) := by
  rw [CountedOp.step_writer m ⟨j, hj⟩, onWriter_eq]

theorem step_turn_of_none {j : Nat} (hj : ¬j < m.buckets.toNat) (op : WriterOp) :
    (CountedOp.writer j op).step m = (.writer none, m) := by
  rw [CountedOp.step, dif_neg hj]

theorem step_turn_fst (m : CountedShards τ) (j : Nat) (op : WriterOp) :
    ((CountedOp.writer j op).step m).1 = .writer ((m.writers[j]?).map fun w => (op.step w).1) := by
  rw [getElem?_writers]
  by_cases hj : j < m.buckets.toNat
  · rw [step_turn hj, if_pos hj, m.store?_writer ⟨j, hj⟩]
    rfl
  · rw [step_turn_of_none hj, if_neg hj]
    rfl

theorem writers_step_turn (m : CountedShards τ) (j : Nat) (op : WriterOp) (i : Nat) :
    ((CountedOp.writer j op).step m).2.writers[i]? =
      if j = i then (m.writers[i]?).map fun w => (op.step w).2 else m.writers[i]? := by
  by_cases hj : j < m.buckets.toNat
  · rw [step_turn hj, getElem?_writers_withStore hj]
    by_cases hji : j = i
    · subst hji
      rw [if_pos rfl, if_pos rfl, getElem?_writers, if_pos hj, m.store?_writer ⟨j, hj⟩]
      exact congrArg some (step_snd_eq (m.writer ⟨j, hj⟩) op).symm
    · rw [if_neg hji, if_neg hji]
  · rw [step_turn_of_none hj]
    split
    · next hji => rw [← hji, getElem?_writers, if_neg hj, Option.map_none]
    · rfl

theorem spare_step_turn (m : CountedShards τ) (j : Nat) (op : WriterOp) :
    ((CountedOp.writer j op).step m).2.store? m.buckets = m.store? m.buckets := by
  by_cases hj : j < m.buckets.toNat
  · rw [step_turn hj, store?_withStore (m.store?_writer ⟨j, hj⟩), if_neg (ofNat_ne_buckets hj)]
  · rw [step_turn_of_none hj]

/-! ## All turns -/

theorem buckets_byTurns (m : CountedShards τ) (turns : List (Nat × WriterOp)) : (m.byTurns turns).2.buckets = m.buckets :=
  CountedOp.buckets_run m _

theorem spare_byTurns (m : CountedShards τ) (turns : List (Nat × WriterOp)) :
    (m.byTurns turns).2.store? m.buckets = m.store? m.buckets := by
  induction turns generalizing m with
  | nil => rfl
  | cons t turns ih =>
      have hrest := ih ((CountedOp.writer t.1 t.2).step m).2
      rw [CountedOp.buckets_step] at hrest
      exact hrest.trans (m.spare_step_turn t.1 t.2)

/-- A writer ends as if it were alone. -/
theorem writers_byTurns (m : CountedShards τ) (turns : List (Nat × WriterOp)) (i : Nat) :
    (m.byTurns turns).2.writers[i]? = (m.writers[i]?).map fun w => (WriterOp.run w (turnsOf i turns)).2 := by
  induction turns generalizing m with
  | nil => exact Option.map_id'.symm
  | cons t turns ih =>
      obtain ⟨j, op⟩ := t
      have hrest := ih ((CountedOp.writer j op).step m).2
      rw [writers_step_turn] at hrest
      rw [byTurns_cons, turnsOf_cons]
      by_cases hj : j = i
      · rw [if_pos hj, Option.map_map] at hrest
        rw [if_pos hj]
        exact hrest
      · rw [if_neg hj] at hrest
        rw [if_neg hj]
        exact hrest

/-- And so it answers. -/
theorem answers_byTurns {w : Writer τ} (hw : m.writers[i]? = some w) (turns : List (Nat × WriterOp)) :
    turnsOf i (m.byTurns turns).1 = (WriterOp.run w (turnsOf i turns)).1.map (fun answer => .writer (some answer)) := by
  induction turns generalizing m w with
  | nil => rfl
  | cons t turns ih =>
      obtain ⟨j, op⟩ := t
      have hnext := m.writers_step_turn j op i
      rw [byTurns_cons, turnsOf_cons, turnsOf_cons]
      by_cases hj : j = i
      · subst hj
        rw [if_pos rfl, hw] at hnext
        rw [if_pos rfl, if_pos rfl, ih hnext, step_turn_fst, hw]
        rfl
      · rw [if_neg hj, hw] at hnext
        rw [if_neg hj, if_neg hj]
        exact ih hnext

/-- Every key belongs to one writer, and no writer can tell in which order the others get their turns: whatever each of them is
told to do, every interleaving gives the same answers and leaves the same map, to the order in its tables and the counts of its
stores. A key that belongs to another writer is sent away, whatever is there. -/
theorem writers_in_any_order (m : CountedShards τ) :
    m.writers.size = m.buckets.toNat ∧ (∀ (i : Nat) (hi : i < m.writers.size), m.writers[i].bucket.toNat = i) ∧
      (∀ key, ∃! i : Nat, ∃ w, m.writers[i]? = some w ∧ w.owns key = true) ∧
      (∀ programs turns turns', Interleaves programs turns → Interleaves programs turns' →
        (∀ i < m.writers.size, turnsOf i (m.byTurns turns).1 = turnsOf i (m.byTurns turns').1) ∧
          (m.byTurns turns).2 = (m.byTurns turns').2) ∧
      ∀ (i : Nat) (key value : UInt64), i < m.writers.size → (key % m.buckets).toNat ≠ i →
        (CountedOp.writer i (.put key value)).step m =
          (.writer (some (.outcome (.error (.foreign key (.ofNat i) (key % m.buckets))))), m) := by
  have hsize : m.writers.size = m.buckets.toNat := Array.size_ofFn
  refine ⟨hsize, fun i hi => ?_, fun key => ?_, fun programs turns turns' ht ht' => ⟨fun i hi => ?_, ?_⟩, ?_⟩
  · obtain ⟨hlt, hwriter⟩ := getElem?_writers_iff.1 (Array.getElem?_eq_getElem hi)
    rw [← hwriter]
    exact toNat_ofNat (Nat.lt_succ_of_lt hlt)
  · refine ⟨(m.bucketFor key).toNat, ⟨m.writer ⟨_, m.bucketFor_lt key⟩, ?_, ?_⟩, ?_⟩
    · exact getElem?_writers_iff.2 ⟨m.bucketFor_lt key, rfl⟩
    · exact writer_owns_iff.2 UInt64.ofNat_toNat.symm
    · rintro i ⟨w, hw, howns⟩
      obtain ⟨hi, rfl⟩ := getElem?_writers_iff.1 hw
      rw [writer_owns_iff.1 howns, toNat_ofNat (Nat.lt_succ_of_lt hi)]
  · have hw := Array.getElem?_eq_getElem hi
    rw [answers_byTurns hw turns, answers_byTurns hw turns', ht, ht']
  · refine ext_writers (by rw [buckets_byTurns, buckets_byTurns]) (fun i => ?_) ?_
    · rw [writers_byTurns, writers_byTurns, ht, ht']
    · rw [buckets_byTurns, spare_byTurns, spare_byTurns]
  · intro i key value hi hforeign
    rw [hsize] at hi
    refine CountedOp.step_writer_put_of_foreign (i := ⟨i, hi⟩) (fun hroute => hforeign ?_) value
    exact (congrArg UInt64.toNat hroute).trans (toNat_ofNat (Nat.lt_succ_of_lt hi))

/-- Two writers in two orders. One of them is given a key of the other, and a key for the second time. -/
theorem two_orders_of_two_writers :
    let turns : List (Nat × WriterOp) := [(0, .put 2 1), (1, .put 1 7), (0, .put 1 9), (0, .put 2 5), (1, .put 3 4)]
    let turns' : List (Nat × WriterOp) := [(1, .put 1 7), (0, .put 2 1), (1, .put 3 4), (0, .put 1 9), (0, .put 2 5)]
    let m : CountedShards (EntryList UInt64 UInt64) := .withBuckets 4 2
    Interleaves (turnsOf · turns) turns' ∧ turnsOf 0 (m.byTurns turns).1 = turnsOf 0 (m.byTurns turns').1 ∧
      (m.byTurns turns).2 = (m.byTurns turns').2 ∧
      (CountedOp.writer 0 (.put 1 9)).step m = (.writer (some (.outcome (.error (.foreign 1 0 1)))), m) := by
  intro turns turns' m
  have hturns' : Interleaves (turnsOf · turns) turns' := by
    rintro (_ | _ | i)
    · rfl
    · rfl
    · simp [turnsOf, turns, turns']
  obtain ⟨hsize, -, -, horder, hforeign⟩ := m.writers_in_any_order
  obtain ⟨hanswers, hends⟩ := horder (turnsOf · turns) turns turns' (fun _ => rfl) hturns'
  exact ⟨hturns', hanswers 0 (by decide), hends, hforeign 0 1 9 (by decide) (by decide)⟩

end CountedShards
end ShardStore
