import ObjectStore.Proofs.Sql.Operands

/-!
# Literals of values, whatever they hold

A literal is exact and delimits itself. Reading an operand from a statement comes to the value that was written and stops where its literal stops, so a value can neither change nor swallow what stands around it. Strings keep their control characters out of the text, and different strings have different literals.
-/

namespace ObjectStore

namespace Sql

/-! ### Texts without controls -/

/-- No character of the text is a control. -/
def ControlFree (cs : List Char) : Prop := ∀ c ∈ cs, Text.isControl c = false

theorem controlFree_iff {cs : List Char} : ControlFree cs ↔ cs.all (fun c => !Text.isControl c) = true := by
  simp [ControlFree]

theorem ControlFree.append {a b : List Char} (ha : ControlFree a) (hb : ControlFree b) : ControlFree (a ++ b) :=
  List.forall_mem_append.2 ⟨ha, hb⟩

theorem controlFree_quotedText {s : String} (h : ControlFree s.toList) : ControlFree (quotedText s).toList := by
  have hquote : ControlFree ['\''] := controlFree_iff.2 rfl
  rw [quotedText_toList]
  apply hquote.append (ControlFree.append _ hquote)
  intro c hc
  obtain ⟨d, hd, hc⟩ := List.mem_flatMap.1 hc
  have heq : c = d := by
    split at hc
    · simpa using hc
    · exact List.mem_singleton.1 hc
  exact heq ▸ h d hd

theorem controlFree_character (code : Nat) : ControlFree (Expr.character code).render.toList := by
  have hdigits : ControlFree (Nat.toDigits 10 code) := by
    intro c hc
    have hdigit := Number.isDigit_of_mem_toDigits hc
    simp only [Char.isDigit, Bool.and_eq_true, decide_eq_true_eq, UInt32.le_iff_toNat_le] at hdigit
    have hlow : 48 ≤ c.toNat := hdigit.1
    have hhigh : c.toNat ≤ 57 := hdigit.2
    simp only [Text.isControl, Bool.or_eq_false_iff, Bool.and_eq_false_iff, decide_eq_false_iff_not]
    omega
  have hopen : ControlFree "char(".toList := controlFree_iff.2 rfl
  have hclose : ControlFree ")".toList := controlFree_iff.2 rfl
  have htext : (Expr.character code).render.toList = "char(".toList ++ Nat.toDigits 10 code ++ ")".toList := by
    simp [Expr.render]
  rw [htext]
  exact (hopen.append hdigits).append hclose

theorem controlFree_spliced {more : List (Char × List Char)} (h : ∀ splice ∈ more, ControlFree splice.2) :
    ControlFree (spliced more) := by
  have hbars : ControlFree [' ', '|', '|', ' '] := controlFree_iff.2 rfl
  induction more with
  | nil => exact fun c hc => absurd hc (by simp [spliced])
  | cons splice more ih =>
    obtain ⟨c, piece⟩ := splice
    obtain ⟨hpiece, hmore⟩ := List.forall_mem_cons.1 h
    have hquoted : ControlFree (quotedText (String.ofList piece)).toList :=
      controlFree_quotedText (by rw [String.toList_ofList]; exact hpiece)
    have htext : spliced ((c, piece) :: more) = [' ', '|', '|', ' '] ++ ((Expr.character c.toNat).render.toList ++
        ([' ', '|', '|', ' '] ++ ((quotedText (String.ofList piece)).toList ++ spliced more))) := by
      simp [spliced]
    rw [htext]
    exact hbars.append ((controlFree_character _).append (hbars.append (hquoted.append (ih hmore))))

namespace Expr

theorem controlFree_pieces (cs : List Char) :
    ControlFree (pieces cs).1 ∧ ∀ splice ∈ (pieces cs).2, ControlFree splice.2 := by
  induction cs with
  | nil => exact ⟨fun c hc => absurd hc (by simp [pieces]), fun splice h => absurd h (by simp [pieces])⟩
  | cons c rest ih =>
    have hstep : pieces (c :: rest) = if Text.isControl c then ([], (c, (pieces rest).1) :: (pieces rest).2)
        else (c :: (pieces rest).1, (pieces rest).2) := rfl
    rw [hstep]
    split
    · exact ⟨fun c hc => absurd hc List.not_mem_nil, List.forall_mem_cons.2 ih⟩
    · next hcontrol => exact ⟨List.forall_mem_cons.2 ⟨Bool.eq_false_iff.2 hcontrol, ih.1⟩, ih.2⟩

theorem controlFree_ofText (s : String) : ControlFree (ofText s).render.toList := by
  obtain ⟨hfirst, hmore⟩ := controlFree_pieces s.toList
  rw [render_ofText]
  exact (controlFree_quotedText (by rwa [String.toList_ofList])).append (controlFree_spliced hmore)

end Expr

end Sql

/-! ### Literals -/

namespace Value

open Sql

theorem literalText_list_eq_ok_iff {items : List Value} {text : String} : (list items).literalText = .ok text ↔
    ∃ es, scalars items = .ok es ∧ "(" ++ ", ".intercalate (Expr.renderAll es) ++ ")" = text := by
  simp only [literalText, bind_eq_ok, Except.ok.injEq]

theorem literalText_eq_ok_iff {value : Value} (hscalar : ∀ items, value ≠ .list items) {text : String} :
    value.literalText = .ok text ↔ ∃ e, value.scalar "List" = .ok e ∧ e.render = text := by
  cases value with
  | list items => exact absurd rfl (hscalar items)
  | _ => simp only [literalText, bind_eq_ok, Except.ok.injEq]

theorem exists_literalText_iff (value : Value) : (∃ text, value.literalText = .ok text) ↔
    value.Writable ∨ ∃ items, value = .list items ∧ ∀ item ∈ items, item.Writable := by
  by_cases hlist : ∃ items, value = .list items
  · obtain ⟨items, rfl⟩ := hlist
    rw [or_iff_right (show ¬(list items).Writable from id)]
    simp [literalText_list_eq_ok_iff, scalars_isOk_iff]
  · have hscalar : ∀ items, value ≠ .list items := fun items heq => hlist ⟨items, heq⟩
    simp [literalText_eq_ok_iff hscalar, ← @scalar_isOk_iff "List", hscalar]

theorem forall₂_readsAs {items : List Value} {es : List Expr} (h : scalars items = .ok es) :
    List.Forall₂ ReadsAs ((Expr.renderAll es).map String.toList) items := by
  rw [Expr.renderAll_eq_map, List.map_map, List.forall₂_map_left_iff]
  exact (forall₂_of_mapM h).flip.imp fun _ _ => readsAs_of_scalar

/-- The literal of a value is read as the value and ends where it ends, whatever follows it in a statement. -/
theorem readOperand?_literalText {value : Value} {text : String} (h : value.literalText = .ok text) {following : List Char}
    (hfollowing : FollowsLiteral following) : readOperand? (text.toList ++ following) = some (value, following) := by
  by_cases hlist : ∃ items, value = .list items
  · obtain ⟨items, rfl⟩ := hlist
    obtain ⟨es, hes, rfl⟩ := literalText_list_eq_ok_iff.1 h
    have hread := readOperand?_list (forall₂_readsAs hes) following
    have htext : ("(" ++ ", ".intercalate (Expr.renderAll es) ++ ")").toList ++ following =
        '(' :: ([',', ' '].intercalate ((Expr.renderAll es).map String.toList) ++ ')' :: following) := by
      simp [String.toList_intercalate]
    rw [htext, hread]
  · obtain ⟨e, he, rfl⟩ := (literalText_eq_ok_iff fun items heq => hlist ⟨items, heq⟩).1 h
    exact (readsAs_of_scalar he).readOperand? hfollowing.ends

/-- Values have literals exactly if they are scalars with a text or lists of such scalars. A literal is read as the value that was written, up to where it ends and no further, whatever stands after it in a statement. Strings keep their controls out of the text, and different strings have different literals. -/
theorem literals_delimit_themselves :
    (∀ value : Value, (∃ text, value.literalText = .ok text) ↔
      value.Writable ∨ ∃ items, value = .list items ∧ ∀ item ∈ items, item.Writable) ∧
    (∀ (value : Value) (text : String) (following : List Char), value.literalText = .ok text → FollowsLiteral following →
      readOperand? (text.toList ++ following) = some (value, following)) ∧
    (∀ s : String, ∃ text, (string s).literalText = .ok text ∧ ∀ c ∈ text.toList, Text.isControl c = false) ∧
    (∀ s t : String, (string s).literalText = (string t).literalText → s = t) := by
  refine ⟨exists_literalText_iff, fun value text following htext => readOperand?_literalText htext,
    fun s => ⟨_, rfl, Expr.controlFree_ofText s⟩, fun s t hsame => ?_⟩
  have hs := readOperand?_literalText (show (string s).literalText = .ok _ from rfl) (.inl rfl)
  have ht := readOperand?_literalText (show (string t).literalText = .ok _ from hsame.symm) (.inl rfl)
  rw [hs] at ht
  simpa using ht

/-- Quotes beside a control at both ends, inside a list and before a clause. -/
theorem hostile_list_delimits_itself :
    (list [string "'\n'", null, integer (-3)]).literalText = .ok "('''' || char(10) || '''', NULL, -3)" ∧
      readOperand? ("('''' || char(10) || '''', NULL, -3)".toList ++ " LIMIT 1".toList) =
        some (list [string "'\n'", null, integer (-3)], " LIMIT 1".toList) := by
  have htext : (list [string "'\n'", null, integer (-3)]).literalText = .ok "('''' || char(10) || '''', NULL, -3)" := by
    decide +kernel
  have hfollows : FollowsLiteral " LIMIT 1".toList := .inr ⟨" LIMIT ", by decide, by decide⟩
  exact ⟨htext, literals_delimit_themselves.2.1 _ _ _ htext hfollows⟩

end Value

end ObjectStore
