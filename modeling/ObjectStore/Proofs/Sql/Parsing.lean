import ObjectStore.Proofs.Sql.Grammar

/-!
# Reading phrases back

The reader finds in the tokens of a phrase the phrase itself, up to conjunctions and disjunctions of one part, and stops where it ends, provided that the next token cannot go on with a phrase of its level. Eight steps for each token are enough for the recursion.
-/

namespace ObjectStore.Sql

/-! ### Where phrases end -/

def endsOperand (token : Token) : Bool :=
  token != .symbol "." && token != .symbol "(" && (Expr.operator? token).isNone

def endsJoined (token : Token) : Bool := endsOperand token && token != .symbol "||"

def endsNegated (token : Token) : Bool :=
  endsJoined token && ["IS", "NOT", "IN", "LIKE"].all fun keyword => !token.isWord keyword

def endsConjoined (token : Token) : Bool := endsNegated token && !token.isWord "AND"

def endsDisjoined (token : Token) : Bool := endsConjoined token && !token.isWord "OR"

/-- Whether a token goes on with no phrase of the level. -/
def Level.ends : Level → Token → Bool
  | operand => endsOperand
  | joined => endsJoined
  | negated => endsNegated
  | conjoined => endsConjoined
  | disjoined => endsDisjoined

/-- The rest of the tokens, which goes on with no phrase of the level. -/
def Level.Ends (level : Level) (rest : Tokens) : Prop :=
  ∀ token ∈ rest.head?, level.ends token = true

namespace Level.Ends

variable {rest : Tokens}

theorem nil (level : Level) : level.Ends [] := by
  intro token htoken
  cases htoken

theorem cons {level : Level} {token : Token} (h : level.ends token = true) (rest : Tokens) :
    level.Ends (token :: rest) := by
  intro other hother
  cases hother
  exact h

theorem operand_of_joined (h : Level.joined.Ends rest) : Level.operand.Ends rest :=
  fun token htoken => (Bool.and_eq_true_iff.1 (h token htoken)).1

theorem joined_of_negated (h : Level.negated.Ends rest) : Level.joined.Ends rest :=
  fun token htoken => (Bool.and_eq_true_iff.1 (h token htoken)).1

end Level.Ends

namespace Expr

/-! ### Operands -/

theorem afterName_of_ends {rest : Tokens} (h : Level.operand.Ends rest) : afterName rest = false := by
  cases rest with
  | nil => rfl
  | cons token rest =>
    have hends := h token rfl
    simp only [Level.ends, endsOperand, Bool.and_eq_true, bne_iff_ne, Option.isNone_iff_eq_none] at hends
    simp [afterName, hends.1.1, hends.2]

/-- A word that no point, parenthesis or comparison symbol follows. -/
theorem ofWord_of_ends (word : String) {rest : Tokens} (h : Level.operand.Ends rest) :
    ofWord word rest =
      if Text.sameName word "NULL" then some (null, rest)
      else if Text.sameName word "TRUE" then some (truth true, rest)
      else if Text.sameName word "FALSE" then some (truth false, rest)
      else some (column none word, rest) := by
  have hafter := afterName_of_ends h
  unfold ofWord
  split
  · exact absurd (h _ rfl) (by decide)
  · exact absurd (h _ rfl) (by decide)
  · exact absurd (h _ rfl) (by decide)
  · exact absurd (h _ rfl) (by decide)
  · rw [hafter]
    rfl

theorem readOperand_signed {negative : Bool} {digits : List Char} {e : Expr}
    (h : number? negative (String.ofList digits) = some e) (fuel : Nat) (rest : Tokens) :
    readOperand (fuel + 1) (signedTokens negative digits ++ rest) = some (e, rest) := by
  cases negative with
  | false =>
    change (number? false (String.ofList digits)).map (·, rest) = _
    rw [h]
    rfl
  | true =>
    change (number? true (String.ofList digits)).map (·, rest) = _
    rw [h]
    rfl

theorem number?_integer (value : Int64) :
    number? (value.toInt < 0) (String.ofList (Nat.toDigits 10 value.toInt.natAbs)) = some (integer value) := by
  have hvalue : (if decide (value.toInt < 0) = true then -(value.toInt.natAbs : Int) else value.toInt.natAbs) =
      value.toInt := by
    split
    · next h =>
      rw [decide_eq_true_eq] at h
      omega
    · next h =>
      rw [decide_eq_true_eq] at h
      omega
  rw [number?, String.toList_ofList]
  simp only [Number.readNat_toDigits, hvalue, Number.int64?_toInt]

/-- The literal of a word has a point or an exponent, so it is not taken for an integer. -/
theorem readNat_literalChars (d : Digits) : Number.readNat (Double.literalChars d) = none := by
  have hpoint : ∀ {cs : List Char}, '.' ∈ cs → Number.readNat cs = none := fun h => Number.readNat_eq_none h rfl
  have hmark : ∀ {cs : List Char}, 'e' ∈ cs → Number.readNat cs = none := fun h => Number.readNat_eq_none h rfl
  rw [Double.literalChars]
  split
  · apply hpoint
    rw [Digits.positional]
    split
    · simp
    · split <;> simp
  · apply hmark
    simp [Digits.scientific]

theorem number?_real {value : Double} (hfinite : value.isFinite = true) :
    number? value.negative (String.ofList (Double.literalChars value.digits)) = some (real value) := by
  rw [number?, String.toList_ofList]
  simp only [readNat_literalChars, Double.readDecimal_literalChars hfinite, Option.map_some]

/-! ### One step of each reader -/

private theorem readNot_succ (fuel : Nat) (token : Token) (tokens : Tokens) :
    readNot (fuel + 1) (token :: tokens) =
      if token.isWord "NOT" && !afterName tokens then
        (readNot fuel tokens).bind fun inner => some (not inner.1, inner.2)
      else (readJoined fuel (token :: tokens)).bind fun left => readComparison fuel left.1 left.2 := rfl

private theorem readJoined_succ (fuel : Nat) (tokens : Tokens) :
    readJoined (fuel + 1) tokens = (readOperand fuel tokens).bind fun first => joinMore fuel first.1 first.2 := rfl

private theorem joinMore_bars (fuel : Nat) (left : Expr) (tokens : Tokens) :
    joinMore (fuel + 1) left (.symbol "||" :: tokens) =
      (readOperand fuel tokens).bind fun right => joinMore fuel (concat left right.1) right.2 := rfl

private theorem readOperand_open (fuel : Nat) (tokens : Tokens) :
    readOperand (fuel + 1) (.symbol "(" :: tokens) = (readAny fuel tokens).bind fun inner =>
      match inner.2 with
      | .symbol ")" :: tokens => some (group inner.1, tokens)
      | _ => none := rfl

theorem joinMore_of_ends (fuel : Nat) (left : Expr) {rest : Tokens} (h : ∀ token ∈ rest.head?, token ≠ .symbol "||") :
    joinMore (fuel + 1) left rest = some (left, rest) := by
  rw [joinMore]
  intro tokens hrest
  subst hrest
  exact h _ rfl rfl

theorem readComparison_of_ends (fuel : Nat) (left : Expr) {rest : Tokens} (h : Level.negated.Ends rest) :
    readComparison (fuel + 1) left rest = some (left, rest) := by
  cases rest with
  | nil => rfl
  | cons token rest =>
    have hends := h token rfl
    simp only [Level.ends, endsNegated, endsJoined, endsOperand, List.all_cons, List.all_nil, Bool.and_true,
      Bool.and_eq_true, Bool.not_eq_true', Option.isNone_iff_eq_none] at hends
    obtain ⟨⟨⟨-, hoperator⟩, -⟩, his, hnot, hin, hlike⟩ := hends
    simp only [readComparison, his, hnot, hin, hlike, Bool.false_eq_true, if_false, hoperator]

/-! ### Reading phrases -/

/-- The first token of an operand is not taken for a negation. -/
def StartsOperand (tokens : Tokens) : Prop :=
  ∃ token tail, tokens = token :: tail ∧ ∀ rest, (token.isWord "NOT" && !afterName (tail ++ rest)) = false

theorem StartsOperand.append {tokens : Tokens} (h : StartsOperand tokens) (more : Tokens) :
    StartsOperand (tokens ++ more) := by
  obtain ⟨token, tail, rfl, hstart⟩ := h
  refine ⟨token, tail ++ more, rfl, fun rest => ?_⟩
  rw [List.append_assoc]
  exact hstart _

theorem StartsOperand.length_pos {tokens : Tokens} (h : StartsOperand tokens) : 0 < tokens.length := by
  obtain ⟨token, tail, rfl, -⟩ := h
  exact Nat.succ_pos _

/-- The reader finds the expression in front of everything that ends the level, given eight steps for each token but `slack` of them. -/
def Found (read : Nat → Tokens → Option (Expr × Tokens)) (level : Level) (slack : Nat) (e : Expr) : Prop :=
  0 < e.tokens.length ∧ ∀ fuel rest, 8 * e.tokens.length ≤ fuel + slack → level.Ends rest →
    read fuel (e.tokens ++ rest) = some (e.normal, rest)

/-- The reader of a level finds the expression. Joined operands are found with what the reader of more of them would do next, since a longer chain may follow. -/
def ReadsBack : Level → Expr → Prop
  | .operand, e => StartsOperand e.tokens ∧ Found readOperand .operand 7 e
  | .joined, e => StartsOperand e.tokens ∧ ∀ fuel rest, 8 * e.tokens.length ≤ fuel + 6 → Level.operand.Ends rest →
      ∃ left, fuel ≤ left + e.tokens.length ∧ readJoined fuel (e.tokens ++ rest) = joinMore left e.normal rest
  | .negated, e => Found readNot .negated 5 e
  | .conjoined, e => Found readAll .conjoined 4 e
  | .disjoined, e => Found readAny .disjoined 3 e

theorem StartsOperand.of_token {token : Token} (h : token.isWord "NOT" = false) (tail : Tokens) :
    StartsOperand (token :: tail) :=
  ⟨token, tail, rfl, fun rest => by rw [h, Bool.false_and]⟩

theorem StartsOperand.signed (negative : Bool) (digits : List Char) : StartsOperand (signedTokens negative digits) := by
  cases negative with
  | false => exact .of_token rfl _
  | true => exact .of_token rfl _

theorem StartsOperand.qualified (qualifier name : String) : StartsOperand (columnTokens (some qualifier) name) :=
  ⟨_, _, rfl, fun rest => by
    have hafter : afterName (.symbol "." :: .word name :: rest) = true := rfl
    rw [List.cons_append, List.cons_append, List.nil_append, hafter, Bool.not_true, Bool.and_false]⟩

namespace ReadsBack

variable {e : Expr}

theorem of_word {word : String} (htokens : e.tokens = [.word word]) (hnot : Text.sameName word "NOT" = false)
    (hread : ∀ rest, Level.operand.Ends rest → ofWord word rest = some (e.normal, rest)) : ReadsBack .operand e := by
  have hword : (Token.word word).isWord "NOT" = false := hnot
  have hstart : StartsOperand [.word word] := .of_token hword []
  refine ⟨htokens ▸ hstart, htokens ▸ hstart.length_pos, fun fuel rest hfuel hends => ?_⟩
  rw [htokens] at hfuel ⊢
  obtain ⟨fuel, rfl⟩ : ∃ n, fuel = n + 1 := ⟨fuel - 1, by simp at hfuel; omega⟩
  exact hread rest hends

theorem null : ReadsBack .operand .null :=
  of_word rfl (by decide) fun rest hends => ofWord_of_ends "NULL" hends

theorem truth (value : Bool) : ReadsBack .operand (.truth value) := by
  cases value with
  | true => exact of_word rfl (by decide) fun rest hends => ofWord_of_ends "TRUE" hends
  | false => exact of_word rfl (by decide) fun rest hends => ofWord_of_ends "FALSE" hends

theorem plain {name : String} (hname : isPlainName name = true) : ReadsBack .operand (.column none name) := by
  simp only [isPlainName, List.all_cons, List.all_nil, Bool.and_true, Bool.and_eq_true, Bool.not_eq_true'] at hname
  obtain ⟨-, hnull, htrue, hfalse, hnot⟩ := hname
  apply of_word rfl hnot
  intro rest hends
  rw [ofWord_of_ends name hends, hnull, htrue, hfalse]
  rfl

theorem of_signed {negative : Bool} {digits : List Char} (htokens : e.tokens = signedTokens negative digits)
    (hread : number? negative (String.ofList digits) = some e.normal) : ReadsBack .operand e := by
  have hstart := StartsOperand.signed negative digits
  have hpos := hstart.length_pos
  refine ⟨htokens ▸ hstart, htokens ▸ hpos, fun fuel rest hfuel _ => ?_⟩
  rw [htokens] at hfuel ⊢
  obtain ⟨fuel, rfl⟩ : ∃ n, fuel = n + 1 := ⟨fuel - 1, by omega⟩
  exact readOperand_signed hread fuel rest

theorem integer (value : Int64) : ReadsBack .operand (.integer value) :=
  of_signed rfl (number?_integer value)

theorem real {value : Double} (hfinite : value.isFinite = true) : ReadsBack .operand (.real value) :=
  of_signed rfl (number?_real hfinite)

theorem text (value : String) : ReadsBack .operand (.text value) := by
  refine ⟨.of_token rfl [], Nat.succ_pos _, fun fuel rest hfuel _ => ?_⟩
  obtain ⟨fuel, rfl⟩ : ∃ n, fuel = n + 1 := ⟨fuel - 1, by simp [tokens] at hfuel; omega⟩
  rfl

theorem column (qualifier name : String) : ReadsBack .operand (.column (some qualifier) name) := by
  refine ⟨.qualified qualifier name, Nat.succ_pos _, fun fuel rest hfuel _ => ?_⟩
  obtain ⟨fuel, rfl⟩ : ∃ n, fuel = n + 1 := ⟨fuel - 1, by simp [tokens, columnTokens] at hfuel; omega⟩
  rfl

theorem character (code : Nat) : ReadsBack .operand (.character code) := by
  refine ⟨.of_token (by decide) _, Nat.succ_pos _, fun fuel rest hfuel _ => ?_⟩
  obtain ⟨fuel, rfl⟩ : ∃ n, fuel = n + 1 := ⟨fuel - 1, by simp [tokens] at hfuel; omega⟩
  have hname : Text.sameName "char" "CHAR" = true := by decide
  change (if Text.sameName "char" "CHAR" = true then
    (Number.readNat (String.ofList (Nat.toDigits 10 code)).toList).map fun n => (Expr.character n, rest) else none) = _
  rw [if_pos hname, String.toList_ofList, Number.readNat_toDigits]
  rfl

theorem group (h : ReadsBack .disjoined e) : ReadsBack .operand (.group e) := by
  obtain ⟨hpos, hread⟩ := h
  refine ⟨.of_token rfl _, Nat.succ_pos _, fun fuel rest hfuel _ => ?_⟩
  have hlength : (Expr.group e).tokens.length = e.tokens.length + 2 := by
    rw [tokens, List.length_cons, List.length_append, List.length_singleton]
  obtain ⟨fuel, rfl⟩ : ∃ n, fuel = n + 1 := ⟨fuel - 1, by omega⟩
  have hclose : Level.disjoined.Ends (.symbol ")" :: rest) := .cons rfl _
  have hinner := hread fuel (.symbol ")" :: rest) (by omega) hclose
  rw [tokens, List.cons_append, List.append_assoc, List.singleton_append, readOperand_open, hinner]
  rfl

theorem joined_of_operand (h : ReadsBack .operand e) : ReadsBack .joined e := by
  obtain ⟨hstart, hpos, hread⟩ := h
  refine ⟨hstart, fun fuel rest hfuel hends => ?_⟩
  obtain ⟨fuel, rfl⟩ : ∃ n, fuel = n + 1 := ⟨fuel - 1, by omega⟩
  refine ⟨fuel, by omega, ?_⟩
  rw [readJoined_succ, hread fuel rest (by omega) hends]
  rfl

theorem concat {left right : Expr} (hleft : ReadsBack .joined left) (hright : ReadsBack .operand right) :
    ReadsBack .joined (.concat left right) := by
  obtain ⟨hstart, hread⟩ := hleft
  obtain ⟨-, hrightPos, hrightRead⟩ := hright
  refine ⟨hstart.append _, fun fuel rest hfuel hends => ?_⟩
  have hlength : (Expr.concat left right).tokens.length = left.tokens.length + right.tokens.length + 1 := by
    rw [tokens, List.length_append, List.length_cons, Nat.add_assoc]
  have hleftPos := hstart.length_pos
  have hbars : Level.operand.Ends (.symbol "||" :: (right.tokens ++ rest)) := .cons rfl _
  obtain ⟨more, hmore, heq⟩ := hread fuel (.symbol "||" :: (right.tokens ++ rest)) (by omega) hbars
  obtain ⟨more, rfl⟩ : ∃ n, more = n + 1 := ⟨more - 1, by omega⟩
  refine ⟨more, by omega, ?_⟩
  rw [tokens, List.append_assoc, List.cons_append, heq, joinMore_bars, hrightRead more rest (by omega) hends]
  rfl

theorem readJoined_eq (h : ReadsBack .joined e) (fuel : Nat) {rest : Tokens} (hfuel : 8 * e.tokens.length ≤ fuel + 6)
    (hends : Level.joined.Ends rest) : readJoined fuel (e.tokens ++ rest) = some (e.normal, rest) := by
  have hpos := h.1.length_pos
  obtain ⟨more, hmore, heq⟩ := h.2 fuel rest hfuel hends.operand_of_joined
  obtain ⟨more, rfl⟩ : ∃ n, more = n + 1 := ⟨more - 1, by omega⟩
  rw [heq]
  apply joinMore_of_ends _ _
  intro token htoken
  have h := hends token htoken
  rw [Level.ends, endsJoined, Bool.and_eq_true, bne_iff_ne] at h
  exact h.2

/-- Joined operands that no comparison follows. -/
theorem negated_of_joined (h : ReadsBack .joined e) : ReadsBack .negated e := by
  have hpos := h.1.length_pos
  refine ⟨hpos, fun fuel rest hfuel hends => ?_⟩
  obtain ⟨fuel, rfl⟩ : ∃ n, fuel = n + 2 := ⟨fuel - 2, by omega⟩
  have heq := h.readJoined_eq (fuel + 1) (by omega) hends.joined_of_negated
  obtain ⟨token, tail, htokens, hnot⟩ := h.1
  rw [htokens, List.cons_append] at heq ⊢
  rw [readNot_succ, hnot rest, if_neg Bool.false_ne_true, heq]
  exact readComparison_of_ends _ _ hends

/-! ### Comparisons -/

private theorem readComparison_operator (fuel : Nat) (operator : Operator) (left : Expr) (tokens : Tokens) :
    readComparison (fuel + 1) left (operator.token :: tokens) =
      (readJoined fuel tokens).bind fun right => some (.compare operator left right.1, right.2) := by
  cases operator <;> rfl

private theorem readNot_qualified (fuel : Nat) (qualifier name : String) {rest : Tokens}
    (h : ∀ token ∈ rest.head?, token ≠ .symbol "||") :
    readNot (fuel + 3) (columnTokens (some qualifier) name ++ rest) =
      readComparison (fuel + 2) (.column (some qualifier) name) rest := by
  have hafter : afterName (.symbol "." :: .word name :: rest) = true := rfl
  have hoperand : readOperand (fuel + 1) (columnTokens (some qualifier) name ++ rest) =
      some (.column (some qualifier) name, rest) := rfl
  have hjoined : readJoined (fuel + 2) (columnTokens (some qualifier) name ++ rest) =
      some (.column (some qualifier) name, rest) := by
    rw [readJoined_succ, hoperand]
    exact joinMore_of_ends _ _ h
  change readNot (fuel + 3) (.word qualifier :: .symbol "." :: .word name :: rest) = _
  rw [readNot_succ, hafter, Bool.not_true, Bool.and_false, if_neg Bool.false_ne_true]
  change (readJoined (fuel + 2) (columnTokens (some qualifier) name ++ rest)).bind _ = _
  rw [hjoined]
  rfl

/-- A column by itself before a comparison symbol, whatever its name. -/
private theorem readNot_named (fuel : Nat) {operator : Operator} (hlike : operator ≠ .like) (name : String) (rest : Tokens) :
    readNot (fuel + 3) (.word name :: operator.token :: rest) =
      readComparison (fuel + 2) (.column none name) (operator.token :: rest) := by
  have hafter : afterName (operator.token :: rest) = true := by
    cases operator with
    | like => exact absurd rfl hlike
    | _ => rfl
  have hoperand : readOperand (fuel + 1) (.word name :: operator.token :: rest) =
      some (.column none name, operator.token :: rest) := by
    cases operator with
    | like => exact absurd rfl hlike
    | _ => rfl
  have hjoined : readJoined (fuel + 2) (.word name :: operator.token :: rest) =
      some (.column none name, operator.token :: rest) := by
    rw [readJoined_succ, hoperand]
    apply joinMore_of_ends _ _
    intro token htoken
    cases htoken
    cases operator <;> simp [Operator.token, Operator.text]
  rw [readNot_succ, hafter, Bool.not_true, Bool.and_false, if_neg Bool.false_ne_true, hjoined]
  rfl

theorem compare (operator : Operator) (qualifier name : String) {right : Expr} (h : ReadsBack .joined right) :
    ReadsBack .negated (.compare operator (.column (some qualifier) name) right) := by
  refine ⟨Nat.succ_pos _, fun fuel rest hfuel hends => ?_⟩
  have hlength : (Expr.compare operator (.column (some qualifier) name) right).tokens.length =
      right.tokens.length + 4 := by
    simp [tokens, columnTokens]
  obtain ⟨fuel, rfl⟩ : ∃ n, fuel = n + 3 := ⟨fuel - 3, by omega⟩
  rw [tokens, tokens, List.append_assoc, List.cons_append, readNot_qualified fuel qualifier name,
    readComparison_operator, h.readJoined_eq (fuel + 1) (by omega) hends.joined_of_negated]
  · rfl
  · intro token htoken
    cases htoken
    cases operator <;> simp [Operator.token, Operator.text]

theorem compareNamed {operator : Operator} (hlike : operator ≠ .like) (name : String) {right : Expr}
    (h : ReadsBack .joined right) : ReadsBack .negated (.compare operator (.column none name) right) := by
  refine ⟨Nat.succ_pos _, fun fuel rest hfuel hends => ?_⟩
  have hlength : (Expr.compare operator (.column none name) right).tokens.length = right.tokens.length + 2 := by
    simp [tokens, columnTokens]
  obtain ⟨fuel, rfl⟩ : ∃ n, fuel = n + 3 := ⟨fuel - 3, by omega⟩
  rw [tokens, tokens, List.append_assoc, List.cons_append, columnTokens, List.singleton_append,
    readNot_named fuel hlike, readComparison_operator, h.readJoined_eq (fuel + 1) (by omega) hends.joined_of_negated]
  rfl

private theorem readItems_succ (fuel : Nat) (tokens : Tokens) :
    readItems (fuel + 1) tokens = (readAny fuel tokens).bind fun first =>
      match first.2 with
      | .symbol "," :: tokens => (readItems fuel tokens).bind fun rest => some (first.1 :: rest.1, rest.2)
      | .symbol ")" :: tokens => some ([first.1], tokens)
      | _ => none := rfl

theorem readItems_eq {items : List Expr} (hne : items ≠ []) (h : ∀ item ∈ items, ReadsBack .disjoined item) :
    ∀ fuel rest, 8 * ([.symbol ","].intercalate (items.map tokens)).length ≤ fuel + 2 →
      readItems fuel ([.symbol ","].intercalate (items.map tokens) ++ .symbol ")" :: rest) =
        some (items.map normal, rest) := by
  induction items with
  | nil => exact absurd rfl hne
  | cons item others ih =>
    intro fuel rest hfuel
    obtain ⟨hpos, hread⟩ := h item List.mem_cons_self
    cases others with
    | nil =>
      have hclose : Level.disjoined.Ends (.symbol ")" :: rest) := .cons rfl _
      rw [List.map_singleton, List.intercalate_singleton] at hfuel ⊢
      obtain ⟨fuel, rfl⟩ : ∃ n, fuel = n + 1 := ⟨fuel - 1, by omega⟩
      rw [readItems_succ, hread fuel _ (by omega) hclose]
      rfl
    | cons second others =>
      rw [List.map_cons, List.map_cons, List.intercalate_cons_cons, ← List.map_cons] at hfuel ⊢
      rw [List.length_append, List.length_append, List.length_singleton] at hfuel
      obtain ⟨fuel, rfl⟩ : ∃ n, fuel = n + 1 := ⟨fuel - 1, by omega⟩
      have hmore := ih (List.cons_ne_nil _ _) (fun other hother => h other (List.mem_cons_of_mem _ hother)) fuel rest
        (by omega)
      have hcomma : ∀ tail, Level.disjoined.Ends (.symbol "," :: tail) := .cons rfl
      rw [readItems_succ, List.append_assoc, List.append_assoc, List.singleton_append, hread fuel _ (by omega) (hcomma _)]
      change (readItems fuel _).bind _ = _
      rw [hmore]
      rfl

private theorem readComparison_in (fuel : Nat) (negated : Bool) (left : Expr) (tokens : Tokens) :
    readComparison (fuel + 1) left
        ((if negated then [.word "NOT", .word "IN", .symbol "("] else [.word "IN", .symbol "("]) ++ tokens) =
      (readItems fuel tokens).bind fun items => some (.inList negated left items.1, items.2) := by
  cases negated <;> rfl

theorem inList (negated : Bool) (qualifier name : String) {items : List Expr} (hne : items ≠ [])
    (h : ∀ item ∈ items, ReadsBack .disjoined item) :
    ReadsBack .negated (.inList negated (.column (some qualifier) name) items) := by
  refine ⟨Nat.succ_pos _, fun fuel rest hfuel _ => ?_⟩
  have hlength : ([.symbol ","].intercalate (items.map tokens)).length + 6 ≤
      (Expr.inList negated (.column (some qualifier) name) items).tokens.length := by
    cases negated <;> simp [tokens, tokensAll_eq_map, columnTokens]
  obtain ⟨fuel, rfl⟩ : ∃ n, fuel = n + 3 := ⟨fuel - 3, by omega⟩
  rw [tokens, tokens, tokensAll_eq_map, List.append_assoc, List.append_assoc, readNot_qualified fuel qualifier name,
    readComparison_in, List.append_assoc, List.singleton_append, readItems_eq hne h (fuel + 1) rest (by omega), normal,
    normal, normalAll_eq_map]
  · rfl
  · intro token htoken
    cases negated <;> cases htoken <;> simp

private theorem readComparison_null (fuel : Nat) (negated : Bool) (left : Expr) (rest : Tokens) :
    readComparison (fuel + 1) left
        ((if negated then [.word "IS", .word "NOT", .word "NULL"] else [.word "IS", .word "NULL"]) ++ rest) =
      some (.isNull negated left, rest) := by
  cases negated with
  | true => rfl
  | false => cases rest <;> rfl

theorem isNull (negated : Bool) (qualifier name : String) :
    ReadsBack .negated (.isNull negated (.column (some qualifier) name)) := by
  refine ⟨Nat.succ_pos _, fun fuel rest hfuel _ => ?_⟩
  have hlength : 5 ≤ (Expr.isNull negated (.column (some qualifier) name)).tokens.length := by
    cases negated <;> simp [tokens, columnTokens]
  obtain ⟨fuel, rfl⟩ : ∃ n, fuel = n + 3 := ⟨fuel - 3, by omega⟩
  rw [tokens, tokens, List.append_assoc, readNot_qualified fuel qualifier name, readComparison_null]
  · rfl
  · intro token htoken
    cases negated <;> cases htoken <;> simp

/-! ### Connectives -/

/-- A negation, whose operand is not taken for a name. -/
theorem not (h : ReadsBack .negated e) (hname : ∀ rest, afterName (e.tokens ++ rest) = false) :
    ReadsBack .negated (.not e) := by
  obtain ⟨hpos, hread⟩ := h
  refine ⟨Nat.succ_pos _, fun fuel rest hfuel hends => ?_⟩
  rw [tokens, List.length_cons] at hfuel
  obtain ⟨fuel, rfl⟩ : ∃ n, fuel = n + 1 := ⟨fuel - 1, by omega⟩
  have hword : (Token.word "NOT").isWord "NOT" = true := by decide
  rw [tokens, List.cons_append, readNot_succ, hname, hword, Bool.not_false, Bool.and_self, if_pos rfl,
    hread fuel rest (by omega) hends]
  rfl

/-- How the reader of a combination works: it finds parts with the reader `read`, all but the first after the keyword. -/
structure Combines (keyword : String) (connective : List Expr → Expr)
    (whole read : Nat → Tokens → Option (Expr × Tokens)) (level part : Level) : Prop where
  whole_succ : ∀ fuel tokens, whole (fuel + 1) tokens = (read fuel tokens).bind fun first =>
    (readMore keyword fuel first.2).bind fun more =>
      some (if more.1.isEmpty then first.1 else connective (first.1 :: more.1), more.2)
  readMore_succ : ∀ fuel tokens, readMore keyword (fuel + 1) (.word keyword :: tokens) =
    (read fuel tokens).bind fun next => (readMore keyword fuel next.2).bind fun rest => some (next.1 :: rest.1, rest.2)
  part_ends : ∀ token, level.ends token = true → part.ends token = true
  keyword_ends : part.ends (.word keyword) = true
  not_keyword : ∀ token, level.ends token = true → token.isWord keyword = false

theorem combines_all : Combines "AND" Expr.all readAll readNot .conjoined .negated where
  whole_succ _ _ := rfl
  readMore_succ _ _ := rfl
  part_ends _ h := (Bool.and_eq_true_iff.1 h).1
  keyword_ends := by decide
  not_keyword _ h := by
    rw [← Bool.not_eq_true']
    exact (Bool.and_eq_true_iff.1 h).2

theorem combines_any : Combines "OR" Expr.any readAny readAll .disjoined .conjoined where
  whole_succ _ _ := rfl
  readMore_succ _ _ := rfl
  part_ends _ h := (Bool.and_eq_true_iff.1 h).1
  keyword_ends := by decide
  not_keyword _ h := by
    rw [← Bool.not_eq_true']
    exact (Bool.and_eq_true_iff.1 h).2

private theorem readMore_of_ends (keyword : String) (fuel : Nat) {rest : Tokens}
    (h : ∀ token ∈ rest.head?, token.isWord keyword = false) : readMore keyword (fuel + 1) rest = some ([], rest) := by
  cases rest with
  | nil => rfl
  | cons token rest => rw [readMore, h token rfl, if_neg Bool.false_ne_true]

private theorem intercalate_cons {α : Type} (separator first : List α) (others : List (List α)) :
    separator.intercalate (first :: others) = first ++ others.flatMap (separator ++ ·) := by
  induction others generalizing first with
  | nil => rw [List.intercalate_singleton, List.flatMap_nil, List.append_nil]
  | cons second others ih => rw [List.intercalate_cons_cons, ih, List.flatMap_cons, List.append_assoc, List.append_assoc]

namespace Combines

variable {keyword : String} {connective : List Expr → Expr} {whole read : Nat → Tokens → Option (Expr × Tokens)}
  {level part : Level} {slack : Nat}

/-- A part ends before the next keyword or where the combination ends. -/
private theorem ends_part (h : Combines keyword connective whole read level part) (others : List Expr) {rest : Tokens}
    (hends : level.Ends rest) : part.Ends ((others.map tokens).flatMap ([.word keyword] ++ ·) ++ rest) := by
  cases others with
  | nil => exact fun token htoken => h.part_ends token (hends token htoken)
  | cons second others => exact .cons h.keyword_ends _

/-- The parts after the first one, each after the keyword, up to what ends the combination. -/
private theorem readMore_parts (h : Combines keyword connective whole read level part) {parts : List Expr}
    (hparts : ∀ e ∈ parts, Found read part (slack + 1) e) (fuel : Nat) {rest : Tokens}
    (hfuel : 8 * ((parts.map tokens).flatMap ([.word keyword] ++ ·)).length < fuel) (hends : level.Ends rest) :
    readMore keyword fuel ((parts.map tokens).flatMap ([.word keyword] ++ ·) ++ rest) =
      some (parts.map normal, rest) := by
  induction parts generalizing fuel with
  | nil =>
    obtain ⟨fuel, rfl⟩ : ∃ n, fuel = n + 1 := ⟨fuel - 1, by omega⟩
    exact readMore_of_ends keyword fuel fun token htoken => h.not_keyword token (hends token htoken)
  | cons e others ih =>
    obtain ⟨-, hread⟩ := hparts e List.mem_cons_self
    rw [List.map_cons, List.flatMap_cons, List.length_append, List.length_append, List.length_singleton] at hfuel
    obtain ⟨fuel, rfl⟩ : ∃ n, fuel = n + 1 := ⟨fuel - 1, by omega⟩
    have hmore := ih (fun other hother => hparts other (List.mem_cons_of_mem _ hother)) fuel (by omega)
    rw [List.map_cons, List.flatMap_cons, List.append_assoc, List.append_assoc, List.singleton_append, h.readMore_succ,
      hread fuel _ (by omega) (h.ends_part others hends)]
    change (readMore keyword fuel _).bind _ = _
    rw [hmore]
    rfl

/-- The whole combination, a single part standing for itself. -/
theorem found (h : Combines keyword connective whole read level part) {parts : List Expr} (hne : parts ≠ [])
    (hparts : ∀ e ∈ parts, Found read part (slack + 1) e) (hslack : slack < 7) {fuel : Nat} {rest : Tokens}
    (hfuel : 8 * ([.word keyword].intercalate (parts.map tokens)).length ≤ fuel + slack) (hends : level.Ends rest) :
    whole fuel ([.word keyword].intercalate (parts.map tokens) ++ rest) =
      some (combined connective (parts.map normal), rest) := by
  cases parts with
  | nil => exact absurd rfl hne
  | cons first others =>
    obtain ⟨hpos, hread⟩ := hparts first List.mem_cons_self
    rw [List.map_cons, intercalate_cons, List.length_append] at hfuel
    obtain ⟨fuel, rfl⟩ : ∃ n, fuel = n + 1 := ⟨fuel - 1, by omega⟩
    have hmore := h.readMore_parts (fun other hother => hparts other (List.mem_cons_of_mem _ hother)) fuel (by omega) hends
    rw [List.map_cons, intercalate_cons, List.append_assoc, h.whole_succ, hread fuel _ (by omega) (h.ends_part others hends)]
    change (readMore keyword fuel _).bind _ = _
    rw [hmore]
    cases others <;> rfl

end Combines

private theorem length_intercalate_pos (separator : Tokens) {parts : List Expr} (hne : parts ≠ [])
    (h : ∀ e ∈ parts, 0 < e.tokens.length) : 0 < (separator.intercalate (parts.map tokens)).length := by
  cases parts with
  | nil => exact absurd rfl hne
  | cons first others =>
    rw [List.map_cons, intercalate_cons, List.length_append]
    exact Nat.add_pos_left (h first List.mem_cons_self) _

theorem all {parts : List Expr} (hne : parts ≠ []) (h : ∀ part ∈ parts, ReadsBack .negated part) :
    ReadsBack .conjoined (.all parts) := by
  rw [ReadsBack, Found, tokens, normal, tokensAll_eq_map, normalAll_eq_map]
  exact ⟨length_intercalate_pos _ hne fun part hpart => (h part hpart).1,
    fun fuel rest hfuel hends => combines_all.found hne h (by decide) hfuel hends⟩

theorem any {parts : List Expr} (hne : parts ≠ []) (h : ∀ part ∈ parts, ReadsBack .conjoined part) :
    ReadsBack .disjoined (.any parts) := by
  rw [ReadsBack, Found, tokens, normal, tokensAll_eq_map, normalAll_eq_map]
  exact ⟨length_intercalate_pos _ hne fun part hpart => (h part hpart).1,
    fun fuel rest hfuel hends => combines_any.found hne h (by decide) hfuel hends⟩

/-- What is read as a conjunction of one part is the part. -/
theorem conjoined_of_negated (h : ReadsBack .negated e) : ReadsBack .conjoined e := by
  have hsingle := all (List.cons_ne_nil e []) fun part hpart => List.mem_singleton.1 hpart ▸ h
  rwa [ReadsBack, Found, tokens, normal, tokensAll_eq_map, normalAll_eq_map, List.map_singleton, List.map_singleton,
    List.intercalate_singleton] at hsingle

theorem disjoined_of_conjoined (h : ReadsBack .conjoined e) : ReadsBack .disjoined e := by
  have hsingle := any (List.cons_ne_nil e []) fun part hpart => List.mem_singleton.1 hpart ▸ h
  rwa [ReadsBack, Found, tokens, normal, tokensAll_eq_map, normalAll_eq_map, List.map_singleton, List.map_singleton,
    List.intercalate_singleton] at hsingle

private theorem afterName_signed (negative : Bool) (digits : List Char) (rest : Tokens) :
    afterName (signedTokens negative digits ++ rest) = false := by
  cases negative <;> rfl

private theorem afterName_intercalate (separator : Tokens) {parts : List Expr} (hne : parts ≠ [])
    (h : ∀ part ∈ parts, ∀ rest, afterName (part.tokens ++ rest) = false) (rest : Tokens) :
    afterName (separator.intercalate (tokensAll parts) ++ rest) = false := by
  cases parts with
  | nil => exact absurd rfl hne
  | cons first others =>
    rw [tokensAll, intercalate_cons, List.append_assoc]
    exact h first List.mem_cons_self _

/-- No phrase starts like the rest of a comparison. -/
theorem afterName_tokens {level : Level} (h : Phrase level e) : ∀ rest, afterName (e.tokens ++ rest) = false := by
  induction h with
  | null => exact fun _ => rfl
  | integer value => exact afterName_signed _ _
  | real _ => exact afterName_signed _ _
  | text _ => exact fun _ => rfl
  | truth value => cases value <;> exact fun _ => rfl
  | column _ _ => exact fun _ => rfl
  | plain _ => exact fun _ => rfl
  | character _ => exact fun _ => rfl
  | group _ _ => exact fun _ => rfl
  | ofOperand _ ih => exact ih
  | concat _ _ ih _ =>
    intro rest
    rw [tokens, List.append_assoc]
    exact ih _
  | ofJoined _ ih => exact ih
  | compare _ _ _ _ _ => exact fun _ => rfl
  | compareNamed _ _ _ _ _ => exact fun _ => rfl
  | inList _ _ _ _ _ _ => exact fun _ => rfl
  | isNull _ _ _ => exact fun _ => rfl
  | not _ _ => exact fun _ => rfl
  | ofNegated _ ih => exact ih
  | all hne _ ih => exact afterName_intercalate _ hne ih
  | ofConjoined _ ih => exact ih
  | any hne _ ih => exact afterName_intercalate _ hne ih

/-- Every phrase is read back. -/
theorem of_phrase {level : Level} (h : Phrase level e) : ReadsBack level e := by
  induction h with
  | null => exact null
  | integer value => exact integer value
  | real hfinite => exact real hfinite
  | text value => exact text value
  | truth value => exact truth value
  | column _ _ => exact column _ _
  | plain hname => exact plain hname
  | character code => exact character code
  | group _ ih => exact group ih
  | ofOperand _ ih => exact joined_of_operand ih
  | concat _ _ ihLeft ihRight => exact concat ihLeft ihRight
  | ofJoined _ ih => exact negated_of_joined ih
  | compare operator _ _ _ ih => exact compare operator _ _ ih
  | compareNamed _ hlike _ _ ih => exact compareNamed hlike _ ih
  | inList negated _ _ hne _ ih => exact inList negated _ _ hne ih
  | isNull negated _ _ => exact isNull negated _ _
  | not h ih => exact not ih (afterName_tokens h)
  | ofNegated _ ih => exact conjoined_of_negated ih
  | all hne _ ih => exact all hne ih
  | ofConjoined _ ih => exact disjoined_of_conjoined ih
  | any hne _ ih => exact any hne ih

end ReadsBack

/-- The reader takes a phrase off the tokens that start with it. -/
theorem read?_tokens {e : Expr} (h : Phrase .disjoined e) {rest : Tokens} (hends : Level.disjoined.Ends rest) :
    read? (e.tokens ++ rest) = some (e.normal, rest) := by
  obtain ⟨-, hread⟩ := ReadsBack.of_phrase h
  refine hread _ rest ?_ hends
  rw [List.length_append]
  omega

/-- The expression that a text is, all of it. -/
def parse? (sql : String) : Option Expr :=
  match (tokens? sql).bind fun placed => read? (placed.map (·.token)) with
  | some (e, []) => some e
  | _ => none

theorem parse?_render {e : Expr} (h : Phrase .disjoined e) : parse? e.render = some e.normal := by
  have hlex : (tokens? e.render).map (fun placed => placed.map (·.token)) = some e.tokens := by
    rw [tokens?_map]
    exact h.lexes.eq_some
  obtain ⟨placed, hplaced, htokens⟩ := Option.map_eq_some_iff.1 hlex
  have hread := read?_tokens h (.nil _)
  rw [List.append_nil] at hread
  rw [parse?, hplaced, Option.bind_some, htokens, hread]

end Expr

end ObjectStore.Sql
