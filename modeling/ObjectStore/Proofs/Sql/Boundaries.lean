import ObjectStore.Sql.Reader

/-!
# Where statements end

No reader reads a semicolon. Each of them leaves as many semicolons as it finds, so the tokens of a whole statement hold none, and a text that is a statement is not separated into several.
-/

namespace ObjectStore.Sql

def semicolons (tokens : Tokens) : Nat := tokens.count (.symbol ";")

@[simp] theorem semicolons_word (text : String) (rest : Tokens) : semicolons (.word text :: rest) = semicolons rest :=
  List.count_cons_of_ne (by simp)

@[simp] theorem semicolons_number (text : String) (rest : Tokens) :
    semicolons (.number text :: rest) = semicolons rest :=
  List.count_cons_of_ne (by simp)

@[simp] theorem semicolons_text (value : String) (rest : Tokens) : semicolons (.text value :: rest) = semicolons rest :=
  List.count_cons_of_ne (by simp)

theorem semicolons_symbol {text : String} (h : text ≠ ";") (rest : Tokens) :
    semicolons (.symbol text :: rest) = semicolons rest :=
  List.count_cons_of_ne (by simpa using h)

theorem semicolons_of_isWord {text : String} {token : Token} (h : token.isWord text = true) (rest : Tokens) :
    semicolons (token :: rest) = semicolons rest := by
  cases token with
  | word w => exact semicolons_word w rest
  | number text => cases h
  | text value => cases h
  | symbol text => cases h

theorem semicolons_of_operator {token : Token} {operator : Operator} (h : Expr.operator? token = some operator)
    (rest : Tokens) : semicolons (token :: rest) = semicolons rest := by
  apply List.count_cons_of_ne
  rintro rfl
  cases h

/-! ### Readers that succeed -/

/-- What is left to be read has the given number of semicolons. -/
def Leaves {α : Type} (count : Nat) (found : Option (α × Tokens)) : Prop :=
  ∀ a rest, found = some (a, rest) → semicolons rest = count

def Passes {α : Type} (read : Reads α) : Prop := ∀ tokens, Leaves (semicolons tokens) (read tokens)

namespace Leaves

variable {α β : Type} {count : Nat}

theorem none : Leaves count (Option.none : Option (α × Tokens)) := fun _ _ h => by cases h

theorem some {a : α} {rest : Tokens} (h : semicolons rest = count) : Leaves count (Option.some (a, rest)) :=
  fun _ _ heq => by
    cases heq
    exact h

theorem bind {found : Option (α × Tokens)} {next : α × Tokens → Option (β × Tokens)} (h : Leaves count found)
    (hnext : ∀ a rest, semicolons rest = count → Leaves count (next (a, rest))) : Leaves count (found >>= next) := by
  intro b rest heq
  obtain ⟨⟨a, between⟩, hfound, heq⟩ := Option.bind_eq_some_iff.1 heq
  exact hnext a between (h a between hfound) b rest heq

theorem bind_ite {condition : Prop} [Decidable condition] {first second : Option (α × Tokens)}
    {next : α × Tokens → Option (β × Tokens)} (hfirst : condition → Leaves count first) (hsecond : Leaves count second)
    (hnext : ∀ a rest, semicolons rest = count → Leaves count (next (a, rest))) :
    Leaves count (if condition then first >>= next else second >>= next) := by
  split
  · next h => exact .bind (hfirst h) hnext
  · exact .bind hsecond hnext

theorem map_pair {found : Option α} {f : α → β} {rest : Tokens} (h : semicolons rest = count) :
    Leaves count (found.map fun a => (f a, rest)) := by
  intro b rest' heq
  obtain ⟨a, -, heq⟩ := Option.map_eq_some_iff.1 heq
  cases heq
  exact h

end Leaves

theorem Passes.after {α : Type} {read : Reads α} (h : Passes read) {tokens : Tokens} {count : Nat}
    (htokens : semicolons tokens = count) : Leaves count (read tokens) :=
  htokens ▸ h tokens

/-! ### Expressions -/

namespace Expr

theorem ofWord_passes (word : String) : Passes (ofWord word) := by
  intro tokens
  unfold ofWord
  split
  · exact .some (by simp [semicolons_symbol])
  · split
    · exact .some (by simp [semicolons_symbol])
    · exact .none
  · split
    · exact .map_pair (by simp [semicolons_symbol])
    · exact .none
  · exact .none
  · repeat' split
    all_goals exact .some rfl

/-- The readers of expressions with the given fuel. -/
structure ReadersPass (fuel : Nat) : Prop where
  any : Passes (readAny fuel)
  all : Passes (readAll fuel)
  more (keyword : String) : Passes (readMore keyword fuel)
  not : Passes (readNot fuel)
  comparison (left : Expr) : Passes (readComparison fuel left)
  items : Passes (readItems fuel)
  joined : Passes (readJoined fuel)
  joinMore (left : Expr) : Passes (joinMore fuel left)
  operand : Passes (readOperand fuel)

theorem readersPass_zero : ReadersPass 0 where
  any _ := .none
  all _ := .none
  more _ _ := .none
  not _ := .none
  comparison _ _ := .none
  items _ := .none
  joined _ := .none
  joinMore _ _ := .none
  operand _ := .none

section Succ

variable {fuel : Nat} (ih : ReadersPass fuel)

include ih

theorem readAny_passes : Passes (readAny (fuel + 1)) := fun tokens =>
  .bind (ih.all tokens) fun _ _ hfirst => .bind ((ih.more "OR").after hfirst) fun _ _ hrest => .some hrest

theorem readAll_passes : Passes (readAll (fuel + 1)) := fun tokens =>
  .bind (ih.not tokens) fun _ _ hfirst => .bind ((ih.more "AND").after hfirst) fun _ _ hrest => .some hrest

theorem readMore_passes (keyword : String) : Passes (readMore keyword (fuel + 1)) := by
  intro tokens
  cases tokens with
  | nil => exact .some rfl
  | cons token tokens =>
    rw [readMore]
    split
    · next hkeyword =>
      rw [semicolons_of_isWord hkeyword]
      exact .bind_ite (fun _ => ih.all tokens) (ih.not tokens) fun _ _ hnext =>
        .bind ((ih.more keyword).after hnext) fun _ _ hrest => .some hrest
    · exact .some rfl

theorem readNot_passes : Passes (readNot (fuel + 1)) := by
  intro tokens
  cases tokens with
  | nil => exact .none
  | cons token tokens =>
    rw [readNot]
    split
    · next hnot =>
      rw [Bool.and_eq_true] at hnot
      rw [semicolons_of_isWord hnot.1]
      exact .bind (ih.not tokens) fun _ _ hinner => .some hinner
    · exact .bind (ih.joined (token :: tokens)) fun left _ hleft => (ih.comparison left).after hleft

theorem readComparison_passes (left : Expr) : Passes (readComparison (fuel + 1) left) := by
  intro tokens
  cases tokens with
  | nil => exact .some rfl
  | cons token rest =>
    rw [readComparison.eq_def]
    dsimp only
    split
    · next his =>
      rw [semicolons_of_isWord his]
      split
      · next first second rest =>
        split
        · next hnot =>
          rw [Bool.and_eq_true] at hnot
          rw [semicolons_of_isWord hnot.1, semicolons_of_isWord hnot.2]
          exact .some rfl
        · split
          · next hnull =>
            rw [semicolons_of_isWord hnull]
            exact .some rfl
          · exact .none
      · split
        · next hnull =>
          rw [semicolons_of_isWord hnull]
          exact .some rfl
        · exact .none
      · exact .none
    · split
      · next hnot =>
        rw [semicolons_of_isWord hnot]
        split
        · split
          · next hin =>
            rw [semicolons_of_isWord hin, semicolons_symbol (by decide)]
            exact .bind (ih.items _) fun _ _ hitems => .some hitems
          · exact .none
        · exact .none
      · split
        · next hin =>
          rw [semicolons_of_isWord hin]
          split
          · rw [semicolons_symbol (by decide)]
            exact .bind (ih.items _) fun _ _ hitems => .some hitems
          · exact .none
        · split
          · next hlike =>
            rw [semicolons_of_isWord hlike]
            exact .bind (ih.joined _) fun _ _ hright => .some hright
          · split
            · next operator hoperator =>
              rw [semicolons_of_operator hoperator]
              exact .bind (ih.joined _) fun _ _ hright => .some hright
            · exact .some rfl

theorem readItems_passes : Passes (readItems (fuel + 1)) := by
  intro tokens
  rw [readItems]
  refine .bind (ih.any tokens) fun first rest hfirst => ?_
  dsimp only
  split
  · refine .bind (ih.items.after ?_) fun _ _ hrest => .some hrest
    rw [← hfirst, semicolons_symbol (by decide)]
  · refine .some ?_
    rw [← hfirst, semicolons_symbol (by decide)]
  · exact .none

theorem readJoined_passes : Passes (readJoined (fuel + 1)) := fun tokens =>
  .bind (ih.operand tokens) fun first _ hfirst => (ih.joinMore first).after hfirst

theorem joinMore_passes (left : Expr) : Passes (joinMore (fuel + 1) left) := by
  intro tokens
  rw [joinMore.eq_def]
  dsimp only
  split
  · rw [semicolons_symbol (by decide)]
    exact .bind (ih.operand _) fun right _ hright => (ih.joinMore _).after hright
  · exact .some rfl

theorem readOperand_passes : Passes (readOperand (fuel + 1)) := by
  intro tokens
  rw [readOperand.eq_def]
  dsimp only
  split
  · exact .some (semicolons_text _ _).symm
  · exact .map_pair (semicolons_number _ _).symm
  · exact .map_pair (by rw [semicolons_symbol (by decide), semicolons_number])
  · rw [semicolons_symbol (by decide)]
    refine .bind (ih.any _) fun inner rest hinner => ?_
    dsimp only
    split
    · refine .some ?_
      rw [← hinner, semicolons_symbol (by decide)]
    · exact .none
  · rw [semicolons_word]
    exact ofWord_passes _ _
  · exact .none

end Succ

theorem readersPass (fuel : Nat) : ReadersPass fuel := by
  induction fuel with
  | zero => exact readersPass_zero
  | succ fuel ih =>
    exact ⟨readAny_passes ih, readAll_passes ih, readMore_passes ih, readNot_passes ih, readComparison_passes ih,
      readItems_passes ih, readJoined_passes ih, joinMore_passes ih, readOperand_passes ih⟩

theorem read_passes : Passes read? := fun tokens => (readersPass _).any tokens

end Expr

/-! ### Statements -/

theorem keyword_passes (text : String) : Passes (keyword text) := by
  intro tokens
  cases tokens with
  | nil => exact .none
  | cons token rest =>
    rw [keyword]
    split
    · next h =>
      rw [semicolons_of_isWord h]
      exact .some rfl
    · exact .none

theorem keywords_passes (texts : List String) : Passes (keywords texts) := by
  induction texts with
  | nil => exact fun tokens => .some rfl
  | cons text texts ih => exact fun tokens => .bind (keyword_passes text tokens) fun _ _ h => ih.after h

theorem symbol_passes {text : String} (h : text ≠ ";") : Passes (symbol text) := by
  intro tokens
  cases tokens with
  | nil => exact .none
  | cons token rest =>
    rw [symbol]
    split
    · next htoken =>
      rw [eq_of_beq htoken, semicolons_symbol h]
      exact .some rfl
    · exact .none

theorem name_passes : Passes name := by
  intro tokens
  rw [name.eq_def]
  split
  · exact .some (semicolons_word _ _).symm
  · exact .none

theorem semicolons_drop {text : String} {tokens : Tokens} (h : startsWith text tokens = true) :
    semicolons (tokens.drop 1) = semicolons tokens := by
  cases tokens with
  | nil => rfl
  | cons token rest =>
    rw [startsWith, keyword] at h
    split at h
    · next htoken => exact (semicolons_of_isWord htoken rest).symm
    · cases h

theorem separated_passes {α : Type} {part : Reads α} (h : Passes part) (bound : Nat) : Passes (separated part bound) := by
  induction bound with
  | zero => exact fun _ => .none
  | succ bound ih =>
    intro tokens
    rw [separated]
    refine .bind (h tokens) fun first rest hfirst => ?_
    dsimp only
    split
    · refine .bind (ih.after ?_) fun _ _ hrest => .some hrest
      rw [← hfirst, semicolons_symbol (by decide)]
    · exact .some hfirst

theorem commaSeparated_passes {α : Type} {part : Reads α} (h : Passes part) : Passes (commaSeparated part) :=
  fun tokens => separated_passes h _ tokens

theorem parenthesized_passes {α : Type} {part : Reads α} (h : Passes part) : Passes (parenthesized part) := fun tokens =>
  .bind (symbol_passes (by decide) tokens) fun _ _ hopen => .bind (h.after hopen) fun _ _ hpart =>
    .bind ((symbol_passes (by decide)).after hpart) fun _ _ hclose => .some hclose

theorem readFilter_passes : Passes readFilter := by
  intro tokens
  rw [readFilter]
  split
  · next h => exact .bind (Expr.read_passes.after (semicolons_drop h)) fun _ _ hfilter => .some hfilter
  · exact .some rfl

theorem readJoin_passes : Passes readJoin := by
  intro tokens
  refine .bind (keywords_passes _ tokens) fun _ _ hjoin => .bind (name_passes.after hjoin) fun table rest htable => ?_
  exact .bind_ite (fun h => name_passes.after ((semicolons_drop h).trans htable)) (.some htable) fun _ _ hname =>
    .bind ((keyword_passes _).after hname) fun _ _ hon => .bind (Expr.read_passes.after hon) fun _ _ h => .some h

theorem readJoins_passes (bound : Nat) : Passes (readJoins bound) := by
  induction bound with
  | zero => exact fun _ => .some rfl
  | succ bound ih =>
    intro tokens
    rw [readJoins]
    split
    · exact .bind (readJoin_passes tokens) fun _ _ hjoin => .bind (ih.after hjoin) fun _ _ hrest => .some hrest
    · exact .some rfl

theorem readSource_passes : Passes readSource := by
  intro tokens
  rw [readSource]
  split
  · next h =>
    exact .bind (name_passes.after (semicolons_drop h)) fun _ _ htable =>
      .bind ((readJoins_passes _).after htable) fun _ _ hjoins => .some hjoins
  · exact .some rfl

theorem semicolons_readDirection (tokens : Tokens) : semicolons (readDirection tokens).2 = semicolons tokens := by
  rw [readDirection]
  split
  · next h => exact semicolons_drop h
  · split
    · next h => exact semicolons_drop h
    · rfl

theorem readNulls_passes : Passes readNulls := by
  intro tokens
  rw [readNulls]
  split
  · next h =>
    have hword : ∀ {text}, startsWith text (tokens.drop 1) = true → semicolons (tokens.drop 2) = semicolons tokens := by
      intro text htext
      rw [← semicolons_drop h, ← semicolons_drop htext, List.drop_drop]
    split
    · next hfirst => exact .some (hword hfirst)
    · split
      · next hlast => exact .some (hword hlast)
      · exact .none
  · exact .some rfl

theorem readOrderTerm_passes : Passes readOrderTerm := fun tokens =>
  .bind (Expr.read_passes tokens) fun _ rest hexpr =>
    .bind (readNulls_passes.after ((semicolons_readDirection rest).trans hexpr)) fun _ _ hnulls => .some hnulls

theorem readOrder_passes : Passes readOrder := by
  intro tokens
  rw [readOrder]
  split
  · exact .bind (keywords_passes _ tokens) fun _ _ h => (commaSeparated_passes readOrderTerm_passes).after h
  · exact .some rfl

theorem readInteger_passes : Passes readInteger := by
  intro tokens
  rw [readInteger.eq_def]
  split
  · exact .map_pair (semicolons_number _ _).symm
  · exact .map_pair (by rw [semicolons_symbol (by decide), semicolons_number])
  · exact .none

theorem readPaging_passes : Passes readPaging := by
  intro tokens
  rw [readPaging]
  split
  · next h =>
    refine .bind (readInteger_passes.after (semicolons_drop h)) fun limit rest hlimit => ?_
    dsimp only
    split
    · next hoffset =>
      exact .bind (readInteger_passes.after ((semicolons_drop hoffset).trans hlimit)) fun _ _ hoffset => .some hoffset
    · exact .some hlimit
  · exact .some rfl

theorem readSelect_passes : Passes readSelect := fun tokens =>
  .bind (keyword_passes _ tokens) fun _ _ h => .bind ((commaSeparated_passes Expr.read_passes).after h) fun _ _ hitems =>
    .bind (readSource_passes.after hitems) fun _ _ hsource => .bind (readFilter_passes.after hsource) fun _ _ hfilter =>
      .bind (readOrder_passes.after hfilter) fun _ _ horder => .bind (readPaging_passes.after horder) fun _ _ hpaging =>
        .some hpaging

theorem readAssignment_passes : Passes readAssignment := fun tokens =>
  .bind (name_passes tokens) fun _ _ hname => .bind ((symbol_passes (by decide)).after hname) fun _ _ hsymbol =>
    .bind (Expr.read_passes.after hsymbol) fun _ _ hvalue => .some hvalue

theorem readUpdate_passes : Passes readUpdate := fun tokens =>
  .bind (keyword_passes _ tokens) fun _ _ h => .bind (name_passes.after h) fun _ _ htable =>
    .bind ((keyword_passes _).after htable) fun _ _ hset =>
      .bind ((commaSeparated_passes readAssignment_passes).after hset) fun _ _ hassignments =>
        .bind (readFilter_passes.after hassignments) fun _ _ hfilter => .some hfilter

theorem readDelete_passes : Passes readDelete := fun tokens =>
  .bind (keywords_passes _ tokens) fun _ _ h => .bind (name_passes.after h) fun _ _ htable =>
    .bind (readFilter_passes.after htable) fun _ _ hfilter => .some hfilter

theorem readInsert_passes : Passes readInsert := by
  intro tokens
  refine .bind (keyword_passes _ tokens) fun _ rest hinsert => ?_
  refine .bind_ite (fun _ => (keywords_passes _).after hinsert) (.some hinsert) fun _ _ hor =>
    .bind ((keyword_passes _).after hor) fun _ _ hinto => .bind (name_passes.after hinto) fun table rest htable => ?_
  dsimp only
  split
  · exact .bind ((keywords_passes _).after htable) fun _ _ hdefault => .some hdefault
  · exact .bind ((parenthesized_passes (commaSeparated_passes name_passes)).after htable) fun _ _ hcolumns =>
      .bind ((keyword_passes _).after hcolumns) fun _ _ hvalues =>
        .bind ((commaSeparated_passes (parenthesized_passes (commaSeparated_passes Expr.read_passes))).after hvalues)
          fun _ _ hrows => .some hrows

theorem semicolons_readTypeName (tokens : Tokens) : semicolons (readTypeName tokens).2 = semicolons tokens := by
  rw [readTypeName.eq_def]
  split
  · split
    · rfl
    · exact (semicolons_word _ _).symm
  · rfl

theorem readColumnSpec_passes : Passes readColumnSpec := by
  intro tokens
  refine .bind (name_passes tokens) fun column rest hcolumn => ?_
  have htype := (semicolons_readTypeName rest).trans hcolumn
  dsimp only
  split
  · exact .bind ((keywords_passes _).after htype) fun _ _ hkey => .some hkey
  · exact .some htype

theorem readCreateTable_passes : Passes readCreateTable := by
  intro tokens
  refine .bind (keywords_passes _ tokens) fun _ rest h => ?_
  exact .bind_ite (fun _ => (keywords_passes _).after h) (.some h) fun _ _ hif =>
    .bind (name_passes.after hif) fun _ _ hname =>
      .bind ((parenthesized_passes (commaSeparated_passes readColumnSpec_passes)).after hname) fun _ _ hcolumns =>
        .some hcolumns

theorem readTransaction_passes {text : String} (statement : Statement) {tokens : Tokens}
    (h : startsWith text tokens = true) : Leaves (semicolons tokens) (readTransaction statement tokens) := by
  rw [readTransaction]
  split
  · next htransaction =>
    refine .some ?_
    rw [← semicolons_drop h, ← semicolons_drop htransaction, List.drop_drop]
  · exact .some (semicolons_drop h)

theorem readStatement_passes : Passes readStatement := by
  intro tokens
  rw [readStatement]
  split
  · intro statement rest h
    obtain ⟨⟨select, rest⟩, hselect, h⟩ := Option.map_eq_some_iff.1 h
    cases h
    exact readSelect_passes tokens select rest hselect
  split
  · exact readInsert_passes tokens
  split
  · exact readUpdate_passes tokens
  split
  · exact readDelete_passes tokens
  split
  · exact readCreateTable_passes tokens
  split
  · next h => exact readTransaction_passes _ h
  split
  · next h => exact readTransaction_passes _ h
  split
  · next h => exact readTransaction_passes _ h
  · exact .none

/-- The tokens of a whole statement hold no semicolon. -/
theorem Statement.not_mem_of_ofTokens? {tokens : Tokens} {statement : Statement}
    (h : Statement.ofTokens? tokens = some statement) : .symbol ";" ∉ tokens := by
  rw [ofTokens?] at h
  split at h
  · next found hread =>
    have hcount := readStatement_passes tokens found [] hread
    exact List.count_eq_zero.1 hcount.symm
  · cases h

end ObjectStore.Sql
