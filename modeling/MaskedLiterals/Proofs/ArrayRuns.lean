import Mathlib
import MaskedLiterals.ArrayStore

/-!
# Runs of loads and writes

A store is loaded and written over, in any order and from any place on.  After a run each place
holds the element that the last write over it put there, or the loaded one if no write since the
load covers it (`ArrayStore.Holds`, `contents_of_run`).  The last write wins; no write moves an
element, adds one or reaches a place that it does not cover.

A write tells how many of its elements found room: as many as there are places in the array that it
covers.  From this alone it follows that writes that share no place commute and that a write can be
done in two parts.
-/

namespace MaskedLiterals

/-- Elements that are written from `start` on. -/
structure Write where
  start : Nat
  tokens : List Token
  deriving DecidableEq, Repr, Inhabited

namespace Write

/-- The write has an element for the place, whether or not the array has such a place. -/
def Covers (write : Write) (i : Nat) : Prop :=
  write.start ≤ i ∧ i < write.start + write.tokens.length

instance (write : Write) : DecidablePred write.Covers := fun i => by
  unfold Covers; infer_instance

def at? (write : Write) (i : Nat) : Option Token := write.tokens[i - write.start]?

def ofText (dialect : Dialect) (start : Nat) (text : String) (key : Key) : Write :=
  ⟨start, ArrayRange.encode dialect text key⟩

end Write

inductive ArrayOp where
  | load (tokens : List Token)
  | write (write : Write)
  /-- Encodes a text and writes it. -/
  | hide (dialect : Dialect) (start : Nat) (text : String) (key : Key)

namespace ArrayOp

/-- What an operation writes; a load writes nothing. -/
def write? : ArrayOp → Option Write
  | .load _ => none
  | .write new => some new
  | .hide dialect start text key => some (.ofText dialect start text key)

def lastLoad (initial : List Token) : List ArrayOp → List Token
  | [] => initial
  | .load tokens :: ops => lastLoad tokens ops
  | _ :: ops => lastLoad initial ops

def writesSinceLoad (ops : List ArrayOp) : List Write :=
  ops.foldl (fun writes op => op.write?.elim [] fun new => writes ++ [new]) []

theorem lastLoad_append (initial : List Token) (ops more : List ArrayOp) :
    lastLoad initial (ops ++ more) = lastLoad (lastLoad initial ops) more := by
  induction ops generalizing initial with
  | nil => rfl
  | cons op ops ih => cases op <;> exact ih _

theorem writesSinceLoad_concat (ops : List ArrayOp) (op : ArrayOp) :
    writesSinceLoad (ops ++ [op])
      = op.write?.elim [] fun new => writesSinceLoad ops ++ [new] := by
  rw [writesSinceLoad, List.foldl_append]
  rfl

end ArrayOp

namespace ArrayStore

variable {store : ArrayStore} {loaded : List Token} {writes : List Write} {write other : Write}

def after (store : ArrayStore) : ArrayOp → ArrayStore
  | .load tokens => store.load tokens
  | .write write => store.overwrite write.start write.tokens
  | .hide dialect start text key => store.overwrite start (ArrayRange.encode dialect text key)

def answer (store : ArrayStore) : ArrayOp → Option Nat
  | .load _ => none
  | .write write => some (store.room write.start write.tokens)
  | .hide dialect start text key => some (store.room start (ArrayRange.encode dialect text key))

def run (store : ArrayStore) (ops : List ArrayOp) : ArrayStore := ops.foldl after store

theorem run_concat (store : ArrayStore) (ops : List ArrayOp) (op : ArrayOp) :
    store.run (ops ++ [op]) = (store.run ops).after op := by
  simp [run]

/-! ### One write -/

theorem answer_of_write? {op : ArrayOp} (h : op.write? = some write) :
    store.answer op = some (store.room write.start write.tokens) := by
  cases op with
  | load tokens => cases h
  | write found => cases h; rfl
  | hide dialect start text key => cases h; rfl

/-- A write puts its elements where it covers places of the array and leaves all other places. -/
theorem get?_overwrite (store : ArrayStore) (write : Write) (i : Nat) :
    (store.overwrite write.start write.tokens).get? i
      = if i < store.length ∧ write.Covers i then write.at? i else store.get? i := by
  have hread := ArrayRange.getElem?_overwrite store.tokens write.start write.tokens i
  have hplaces : (write.start ≤ i
      ∧ i < write.start + ArrayRange.room store.tokens write.start write.tokens)
      ↔ i < store.length ∧ write.Covers i := by
    unfold Write.Covers ArrayRange.room ArrayStore.length
    omega
  simp only [hplaces] at hread
  exact hread

/-- A write has room for as many elements as it covers places of the array. -/
theorem room_eq_card (store : ArrayStore) (write : Write) :
    store.room write.start write.tokens
      = ((Finset.range store.length).filter write.Covers).card := by
  have hplaces : (Finset.range store.length).filter write.Covers
      = Finset.Ico write.start (min store.length (write.start + write.tokens.length)) := by
    ext i
    simp only [Finset.mem_filter, Finset.mem_range, Finset.mem_Ico, Write.Covers]
    omega
  rw [hplaces, Nat.card_Ico]
  unfold ArrayStore.room ArrayRange.room ArrayStore.length
  omega

theorem ext_get? {first second : ArrayStore} (h : ∀ i, first.get? i = second.get? i) :
    first = second := by
  obtain ⟨tokens⟩ := first
  exact congrArg ArrayStore.mk (List.ext_getElem? h)

/-! ### Several writes -/

/-- Writes that share no place can be done in either order. -/
theorem overwrite_comm (store : ArrayStore) (h : ∀ i, write.Covers i → ¬ other.Covers i) :
    (store.overwrite write.start write.tokens).overwrite other.start other.tokens
      = (store.overwrite other.start other.tokens).overwrite write.start write.tokens := by
  apply ext_get?
  intro i
  simp only [get?_overwrite, length_overwrite]
  by_cases hwrite : write.Covers i
  · simp [hwrite, h i hwrite]
  · simp [hwrite]

/-- A write does what its first part and then the rest do. -/
theorem overwrite_append (store : ArrayStore) (start : Nat) (front back : List Token) :
    store.overwrite start (front ++ back)
      = (store.overwrite start front).overwrite (start + front.length) back := by
  apply ext_get?
  intro i
  have hwhole := get?_overwrite store ⟨start, front ++ back⟩ i
  have hfront := get?_overwrite store ⟨start, front⟩ i
  have hback := get?_overwrite (store.overwrite start front) ⟨start + front.length, back⟩ i
  simp only [Write.Covers, Write.at?, length_overwrite, List.length_append] at hwhole hfront hback
  rw [hwhole, hback, hfront]
  by_cases hfirst : i < start + front.length
  · have hplace (hle : start ≤ i) : (front ++ back)[i - start]? = front[i - start]? :=
      List.getElem?_append_left (by omega)
    grind
  · have hplace : (front ++ back)[i - start]? = back[i - (start + front.length)]? := by
      rw [List.getElem?_append_right (by omega), Nat.sub_sub]
    grind

theorem room_append (store : ArrayStore) (start : Nat) (front back : List Token) :
    store.room start (front ++ back)
      = store.room start front
        + (store.overwrite start front).room (start + front.length) back := by
  have hlength := ArrayRange.length_overwrite store.tokens start front
  simp only [ArrayStore.room, ArrayRange.room, overwrite, List.length_append, hlength]
  omega

/-! ### Runs -/

/-- The store holds what was loaded but for the places that were written since, and there what the
    last write over them put there. -/
structure Holds (store : ArrayStore) (loaded : List Token) (writes : List Write) : Prop where
  length_eq : store.length = loaded.length
  kept : ∀ i, (∀ write ∈ writes, ¬ write.Covers i) → store.get? i = loaded[i]?
  written : ∀ (i : Nat) (front : List Write) (write : Write) (back : List Write),
    writes = front ++ write :: back → i < loaded.length → write.Covers i →
    (∀ later ∈ back, ¬ later.Covers i) → store.get? i = write.at? i

theorem holds_load (store : ArrayStore) (tokens : List Token) :
    (store.load tokens).Holds tokens [] where
  length_eq := rfl
  kept := fun _ _ => rfl
  written := by
    intro i front write back hwrites
    simp at hwrites

theorem Holds.overwrite (h : store.Holds loaded writes) (write : Write) :
    (store.overwrite write.start write.tokens).Holds loaded (writes ++ [write]) where
  length_eq := (length_overwrite store write.start write.tokens).trans h.length_eq
  kept := by
    intro i hnone
    have hlast : ¬ write.Covers i := hnone write (by simp)
    rw [get?_overwrite, if_neg fun hin => hlast hin.2]
    exact h.kept i fun earlier hearlier => hnone earlier (List.mem_append_left _ hearlier)
  written := by
    intro i front found back hwrites hi hcovers hlater
    rcases List.eq_nil_or_concat back with rfl | ⟨more, last, rfl⟩
    · -- the write that covers the place is the new one
      obtain ⟨-, hfound⟩ := List.append_inj' hwrites rfl
      obtain rfl := List.head_eq_of_cons_eq hfound
      rw [get?_overwrite, if_pos ⟨h.length_eq.symm ▸ hi, hcovers⟩]
    · -- the new write does not cover the place
      rw [List.concat_eq_append, ← List.cons_append, ← List.append_assoc] at hwrites
      obtain ⟨hbefore, hlast⟩ := List.append_inj' hwrites rfl
      obtain rfl := List.head_eq_of_cons_eq hlast
      have hfree : ¬ write.Covers i := hlater write (by simp)
      rw [get?_overwrite, if_neg fun hin => hfree hin.2]
      exact h.written i front found more hbefore hi hcovers fun later hmem =>
        hlater later (by simp [hmem])

theorem Holds.after (h : store.Holds loaded writes) (op : ArrayOp) :
    (store.after op).Holds (ArrayOp.lastLoad loaded [op])
      (op.write?.elim [] fun write => writes ++ [write]) := by
  cases op with
  | load tokens => exact holds_load store tokens
  | write write => exact h.overwrite write
  | hide dialect start text key => exact h.overwrite (.ofText dialect start text key)

theorem holds_run (store : ArrayStore) (ops : List ArrayOp) :
    (store.run ops).Holds (ArrayOp.lastLoad store.tokens ops) (ArrayOp.writesSinceLoad ops) := by
  induction ops using List.reverseRecOn with
  | nil => exact holds_load store store.tokens
  | append_singleton ops op ih =>
    rw [run_concat, ArrayOp.lastLoad_append, ArrayOp.writesSinceLoad_concat]
    exact ih.after op

/-- **The contents of an array over a whole run.**  The array has as many elements as were loaded
    last.  Each place holds the element of the last write over it since then, or else the loaded
    one, and each write in the run answers how many places of the array it covers.  So writes that
    share no place can change their order, and a write can be split in two, without any difference
    to the array or to what is answered. -/
theorem contents_of_run (store : ArrayStore) (ops : List ArrayOp) :
    (store.run ops).Holds (ArrayOp.lastLoad store.tokens ops) (ArrayOp.writesSinceLoad ops)
    ∧ (∀ (front : List ArrayOp) (op : ArrayOp) (back : List ArrayOp) (write : Write),
      ops = front ++ op :: back → op.write? = some write →
      (store.run front).answer op = some (((Finset.range
        (ArrayOp.lastLoad store.tokens front).length).filter write.Covers).card))
    ∧ (∀ write other : Write, (∀ i, write.Covers i → ¬ other.Covers i) →
      (store.run ops).run [.write write, .write other]
          = (store.run ops).run [.write other, .write write]
        ∧ ((store.run ops).after (.write other)).answer (.write write)
          = (store.run ops).answer (.write write))
    ∧ (∀ (start : Nat) (front back : List Token),
      (store.run ops).run [.write ⟨start, front ++ back⟩]
          = (store.run ops).run [.write ⟨start, front⟩, .write ⟨start + front.length, back⟩]
        ∧ ∃ first second,
          (store.run ops).answer (.write ⟨start, front⟩) = some first
          ∧ ((store.run ops).after (.write ⟨start, front⟩)).answer
            (.write ⟨start + front.length, back⟩) = some second
          ∧ (store.run ops).answer (.write ⟨start, front ++ back⟩) = some (first + second)) := by
  refine ⟨holds_run store ops, ?_, ?_, ?_⟩
  · rintro front op back write - hwrite
    rw [answer_of_write? hwrite, room_eq_card, (holds_run store front).length_eq]
  · intro write other hdisjoint
    refine ⟨overwrite_comm _ hdisjoint, congrArg some ?_⟩
    rw [room_eq_card, room_eq_card, ArrayStore.after, length_overwrite]
  · intro start front back
    exact ⟨overwrite_append _ start front back, _, _, rfl, rfl,
      congrArg some (room_append _ start front back)⟩

end ArrayStore

end MaskedLiterals
