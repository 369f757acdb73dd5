import Mathlib.Data.List.Basic
import PgCollections.Sql.Bindings

/-! # What building leaves bound

The laws of `Building.runFrom`: a step that succeeds hands its bindings on, a step that fails ends
the run and leaves what was bound.  Binding values one after the other hands out consecutive
placeholders (`runFrom_bindAll`), and the values are appended in that order
(`Bindings.addAll`). -/

namespace PgCollections

/-- Binds values in order. -/
def Bindings.addAll (bindings : Bindings) (values : List Json) : Bindings :=
  ⟨bindings.index + values.length, bindings.params ++ values⟩

/-- The placeholder numbers were handed out for exactly the bound values. -/
def Bindings.Aligned (bindings : Bindings) : Prop := bindings.index = bindings.params.length

namespace Bindings

@[simp] theorem addAll_nil (b : Bindings) : b.addAll [] = b := by
  simp [addAll]

@[simp] theorem addAll_addAll (b : Bindings) (vs ws : List Json) :
    (b.addAll vs).addAll ws = b.addAll (vs ++ ws) := by
  simp [addAll, Nat.add_assoc]

@[simp] theorem add_addAll (b : Bindings) (v : Json) (vs : List Json) :
    (b.add v).addAll vs = b.addAll (v :: vs) := by
  simp [add, addAll, Nat.add_assoc, Nat.add_comm 1]

theorem add_eq_addAll (b : Bindings) (v : Json) : b.add v = b.addAll [v] := rfl

@[simp] theorem index_addAll (b : Bindings) (vs : List Json) :
    (b.addAll vs).index = b.index + vs.length := rfl

@[simp] theorem params_addAll (b : Bindings) (vs : List Json) :
    (b.addAll vs).params = b.params ++ vs := rfl

end Bindings

/-- The placeholder numbers handed out for `count` values after number `n`. -/
def slotsAfter (n count : Nat) : List Nat := List.range' (n + 1) count

@[simp] theorem slotsAfter_zero (n : Nat) : slotsAfter n 0 = [] := rfl

@[simp] theorem slotsAfter_succ (n count : Nat) :
    slotsAfter n (count + 1) = (n + 1) :: slotsAfter (n + 1) count := rfl

theorem slotsAfter_add (n count more : Nat) :
    slotsAfter n (count + more) = slotsAfter n count ++ slotsAfter (n + count) more := by
  rw [slotsAfter, slotsAfter, slotsAfter, ← List.range'_append_1, Nat.add_right_comm]

namespace Building

variable {α β : Type} (b : Bindings)

@[simp] theorem runFrom_pure (a : α) : (pure a : Building α).runFrom b = (.ok a, b) := rfl

@[simp] theorem runFrom_throw (e : DbError) :
    (throw e : Building α).runFrom b = (.error e, b) := rfl

/-- A step that succeeds hands its bindings on; one that fails ends the run. -/
theorem runFrom_seq (x : Building α) (f : α → Building β) :
    (x >>= f).runFrom b = match x.runFrom b with
      | (.ok a, bound) => (f a).runFrom bound
      | (.error e, bound) => (.error e, bound) := by
  simp only [runFrom, ExceptT.run, StateT.run, Bind.bind, ExceptT.bind, ExceptT.mk, StateT.bind,
    ExceptT.bindCont]
  cases x b with
  | mk result bound => cases result <;> rfl

theorem runFrom_seq_ok {x : Building α} {a : α} {b bound : Bindings} (f : α → Building β)
    (h : x.runFrom b = (.ok a, bound)) : (x >>= f).runFrom b = (f a).runFrom bound := by
  rw [runFrom_seq, h]

@[simp] theorem runFrom_bind (v : Json) :
    (bind v).runFrom b = (.ok (placeholder (b.index + 1)), b.add v) := rfl

theorem runFrom_bindAll (vs : List Json) :
    (bindAll vs).runFrom b =
      (.ok ((slotsAfter b.index vs.length).map placeholder), b.addAll vs) := by
  induction vs generalizing b with
  | nil => simp [bindAll]
  | cons v vs ih =>
      have hrest := ih (b.add v)
      simp only [bindAll] at hrest ⊢
      rw [List.mapM_cons, runFrom_seq_ok _ (runFrom_bind b v), runFrom_seq_ok _ hrest]
      rw [runFrom_pure, Bindings.add_addAll]
      rfl

end Building

end PgCollections
