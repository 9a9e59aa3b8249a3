import ObjectStore.Proofs.Results
import ObjectStore.Proofs.Sql.Grammar
import ObjectStore.Tables.Eval
import ObjectStore.Value.Literal

/-!
# Literals of values

The expression that is written for a scalar is a literal of it: joined operands that stand for the value itself and come to its cell on every row. A text with control characters is joined from pieces, so joining and the characters by their codes belong to what a literal may be.
-/

namespace ObjectStore

/-- The cell that a scalar is stored in. Lists and records have none and count as absent. -/
def Value.cell : Value → Cell
  | null => .null
  | string s => .text s
  | integer n => .integer n
  | double d => .real d
  | boolean b => Tables.Truth.toCell (some b)
  | object _ _ => .null
  | list _ => .null

namespace Sql.Expr

/-- The value that a literal stands for. -/
def value? : Expr → Option Value
  | null => some .null
  | integer n => some (.integer n)
  | real d => some (.double d)
  | text s => some (.string s)
  | truth b => some (.boolean b)
  | character code => some (.string (String.singleton (Char.ofNat code)))
  | concat left right =>
    match left.value?, right.value? with
    | some (.string a), some (.string b) => some (.string (a ++ b))
    | _, _ => none
  | _ => none

/-- The expression is a literal of the value, which nothing around it can take apart. -/
structure Denotes (e : Expr) (value : Value) : Prop where
  phrase : Phrase .joined e
  normal_eq : e.normal = e
  value_eq : e.value? = some value
  eval_eq : ∀ scope, Tables.eval scope e = (.none, value.cell)

namespace Denotes

theorem concat {left right : Expr} {a b : String} (hleft : left.Denotes (.string a)) (hright : right.Denotes (.string b))
    (hoperand : Phrase .operand right) : (Expr.concat left right).Denotes (.string (a ++ b)) where
  phrase := .concat hleft.phrase hoperand
  normal_eq := by rw [normal, hleft.normal_eq, hright.normal_eq]
  value_eq := by rw [value?, hleft.value_eq, hright.value_eq]
  eval_eq scope := by
    rw [Tables.eval, hleft.eval_eq, hright.eval_eq]
    rfl

theorem text (s : String) : (Expr.text s).Denotes (.string s) :=
  ⟨.ofOperand (.text s), rfl, rfl, fun _ => rfl⟩

theorem character (c : Char) : (Expr.character c.toNat).Denotes (.string (String.singleton c)) where
  phrase := .ofOperand (.character _)
  normal_eq := rfl
  value_eq := by rw [value?, Char.ofNat_toNat]
  eval_eq scope := by
    rw [Tables.eval, Char.ofNat_toNat]
    rfl

/-- The characters are those before the first control, then each control and the characters after it. -/
theorem pieces_flatten (cs : List Char) :
    (pieces cs).1 ++ (pieces cs).2.flatMap (fun piece => piece.1 :: piece.2) = cs := by
  induction cs with
  | nil => rfl
  | cons c rest ih =>
    have hstep : pieces (c :: rest) = if Text.isControl c then ([], (c, (pieces rest).1) :: (pieces rest).2)
        else (c :: (pieces rest).1, (pieces rest).2) := rfl
    rw [hstep]
    split
    · rw [List.nil_append, List.flatMap_cons, List.cons_append, ih]
    · rw [List.cons_append, ih]

private theorem foldl_pieces (more : List (Char × List Char)) {e : Expr} {s : String} (h : e.Denotes (.string s)) :
    (more.foldl (fun e (c, piece) => Expr.concat (Expr.concat e (.character c.toNat)) (.text (String.ofList piece))) e).Denotes
      (.string (s ++ String.ofList (more.flatMap fun piece => piece.1 :: piece.2))) := by
  induction more generalizing e s with
  | nil =>
    rw [List.flatMap_nil, String.ofList_nil, String.append_empty]
    exact h
  | cons head rest ih =>
    obtain ⟨c, piece⟩ := head
    have hstep := (h.concat (character c) (.character _)).concat (text (String.ofList piece)) (.text _)
    have htext : s ++ String.ofList (((c, piece) :: rest).flatMap fun piece => piece.1 :: piece.2) =
        s ++ String.singleton c ++ String.ofList piece ++ String.ofList (rest.flatMap fun piece => piece.1 :: piece.2) := by
      apply String.toList_injective
      simp
    rw [htext]
    exact ih hstep

theorem ofText (s : String) : (Expr.ofText s).Denotes (.string s) := by
  have h := foldl_pieces (pieces s.toList).2 (text (String.ofList (pieces s.toList).1))
  rwa [← String.ofList_append, pieces_flatten, String.ofList_toList] at h

end Denotes

end Sql.Expr

theorem Value.scalar_denotes {listKind : String} {value : Value} {e : Sql.Expr} (h : value.scalar listKind = .ok e) :
    e.Denotes value := by
  cases value with
  | null =>
    cases h
    exact ⟨.ofOperand .null, rfl, rfl, fun _ => rfl⟩
  | string s =>
    cases h
    exact .ofText s
  | integer n =>
    cases h
    exact ⟨.ofOperand (.integer n), rfl, rfl, fun _ => rfl⟩
  | double d =>
    rw [scalar] at h
    split at h
    · next hfinite =>
      cases h
      exact ⟨.ofOperand (.real hfinite), rfl, rfl, fun _ => rfl⟩
    · cases h
  | boolean b =>
    cases h
    exact ⟨.ofOperand (.truth b), rfl, rfl, fun _ => rfl⟩
  | object className fields => cases h
  | list items => cases h

/-! ### Values that have literals -/

/-- The values that have a literal: neither lists nor records, and numbers that are finite. -/
def Value.Writable : Value → Prop
  | double d => d.isFinite = true
  | object _ _ => False
  | list _ => False
  | _ => True

theorem Value.scalar_isOk_iff {listKind : String} {value : Value} :
    (∃ e, value.scalar listKind = .ok e) ↔ value.Writable := by
  cases value with
  | double d =>
    rw [scalar, Writable]
    cases d.isFinite <;> simp
  | object className fields => simp [scalar, Writable]
  | list items => simp [scalar, Writable]
  | _ => simp [scalar, Writable]

theorem Value.scalars_isOk_iff {items : List Value} : (∃ es, scalars items = .ok es) ↔ ∀ item ∈ items, item.Writable := by
  induction items with
  | nil => simp [scalars, pure, Except.pure]
  | cons item items ih =>
    rw [List.forall_mem_cons, ← ih, ← scalar_isOk_iff, scalars, List.mapM_cons]
    constructor
    · rintro ⟨es, hes⟩
      obtain ⟨e, he, hes⟩ := bind_eq_ok.1 hes
      obtain ⟨rest, hrest, -⟩ := bind_eq_ok.1 hes
      exact ⟨⟨e, he⟩, rest, hrest⟩
    · rintro ⟨⟨e, he⟩, rest, hrest⟩
      exact ⟨e :: rest, bind_eq_ok.2 ⟨e, he, bind_eq_ok.2 ⟨rest, hrest, rfl⟩⟩⟩

end ObjectStore
