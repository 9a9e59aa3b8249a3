import ObjectStore.Proofs.Sql.Lexing
import ObjectStore.Sql.Reader

/-!
# Phrases

An expression is written without parentheses of its own, so its text means the expression only if each part binds at least as tightly as its place demands. `Phrase level e` says that: operands bind tightest, then operands that are joined, comparisons and negations, conjunctions, disjunctions. The text of a phrase is scanned into the tokens of the phrase.

A conjunction or a disjunction of one part leaves no mark in the text. `Expr.normal` is the expression without such, which is all that a reader can find.
-/

namespace ObjectStore.Sql

/-! ### Tokens of expressions -/

/-- The tokens of a number whose sign stands before its digits. -/
def signedTokens (negative : Bool) (digits : List Char) : List Token :=
  if negative then [.symbol "-", .number (String.ofList digits)] else [.number (String.ofList digits)]

def columnTokens : Option String → String → List Token
  | some qualifier, name => [.word qualifier, .symbol ".", .word name]
  | none, name => [.word name]

def Operator.token : Operator → Token
  | like => .word "LIKE"
  | operator => .symbol operator.text

namespace Expr

mutual

def tokens : Expr → List Token
  | null => [.word "NULL"]
  | integer value => signedTokens (value.toInt < 0) (Nat.toDigits 10 value.toInt.natAbs)
  | real value => signedTokens value.negative (Double.literalChars value.digits)
  | text value => [.text value]
  | truth true => [.word "TRUE"]
  | truth false => [.word "FALSE"]
  | column qualifier name => columnTokens qualifier name
  | character code => [.word "char", .symbol "(", .number (String.ofList (Nat.toDigits 10 code)), .symbol ")"]
  | concat left right => left.tokens ++ .symbol "||" :: right.tokens
  | compare operator left right => left.tokens ++ operator.token :: right.tokens
  | inList negated subject items =>
    subject.tokens ++ (if negated then [.word "NOT", .word "IN", .symbol "("] else [.word "IN", .symbol "("]) ++
      ([.symbol ","].intercalate (tokensAll items) ++ [.symbol ")"])
  | isNull negated subject =>
    subject.tokens ++ (if negated then [.word "IS", .word "NOT", .word "NULL"] else [.word "IS", .word "NULL"])
  | not inner => .word "NOT" :: inner.tokens
  | all parts => [.word "AND"].intercalate (tokensAll parts)
  | any parts => [.word "OR"].intercalate (tokensAll parts)
  | group inner => .symbol "(" :: (inner.tokens ++ [.symbol ")"])
  | count => [.word "COUNT", .symbol "(", .symbol "*", .symbol ")"]

def tokensAll : List Expr → List (List Token)
  | [] => []
  | expr :: rest => expr.tokens :: tokensAll rest

end

/-- Parts combined by a connective, which a single part does without. -/
def combined (connective : List Expr → Expr) : List Expr → Expr
  | [part] => part
  | parts => connective parts

mutual

/-- The expression without conjunctions and disjunctions of a single part. -/
def normal : Expr → Expr
  | concat left right => concat left.normal right.normal
  | compare operator left right => compare operator left.normal right.normal
  | inList negated subject items => inList negated subject.normal (normalAll items)
  | isNull negated subject => isNull negated subject.normal
  | not inner => not inner.normal
  | all parts => combined all (normalAll parts)
  | any parts => combined any (normalAll parts)
  | group inner => group inner.normal
  | null => null
  | integer value => integer value
  | real value => real value
  | text value => text value
  | truth value => truth value
  | column qualifier name => column qualifier name
  | character code => character code
  | count => count

def normalAll : List Expr → List Expr
  | [] => []
  | expr :: rest => expr.normal :: normalAll rest

end

theorem tokensAll_eq_map (es : List Expr) : tokensAll es = es.map tokens := by
  induction es with
  | nil => rfl
  | cons e es ih => rw [tokensAll, ih, List.map_cons]

theorem normalAll_eq_map (es : List Expr) : normalAll es = es.map normal := by
  induction es with
  | nil => rfl
  | cons e es ih => rw [normalAll, ih, List.map_cons]

theorem renderAll_eq_map (es : List Expr) : renderAll es = es.map render := by
  induction es with
  | nil => rfl
  | cons e es ih => rw [renderAll, ih, List.map_cons]

end Expr

/-! ### The grammar -/

/-- How tightly an expression binds, from the tightest on. -/
inductive Level where
  | operand
  | joined
  | negated
  | conjoined
  | disjoined

/-- Whether a word is a name even where it could be a literal or an operator. -/
def isPlainName (word : String) : Bool :=
  Text.isIdentifier word && ["NULL", "TRUE", "FALSE", "NOT"].all fun keyword => !Text.sameName word keyword

/-- The expressions whose text can be read back, by how tightly they bind. A column without its table is a phrase by itself if its name is plain, and before a comparison symbol in any case. -/
inductive Phrase : Level → Expr → Prop where
  | null : Phrase .operand .null
  | integer (value : Int64) : Phrase .operand (.integer value)
  | real {value : Double} (hfinite : value.isFinite = true) : Phrase .operand (.real value)
  | text (value : String) : Phrase .operand (.text value)
  | truth (value : Bool) : Phrase .operand (.truth value)
  | column {qualifier name : String} (hqualifier : Text.isIdentifier qualifier = true)
      (hname : Text.isIdentifier name = true) : Phrase .operand (.column (some qualifier) name)
  | plain {name : String} (hname : isPlainName name = true) : Phrase .operand (.column none name)
  | character (code : Nat) : Phrase .operand (.character code)
  | group {e : Expr} (h : Phrase .disjoined e) : Phrase .operand (.group e)
  | ofOperand {e : Expr} (h : Phrase .operand e) : Phrase .joined e
  | concat {left right : Expr} (hleft : Phrase .joined left) (hright : Phrase .operand right) :
      Phrase .joined (.concat left right)
  | ofJoined {e : Expr} (h : Phrase .joined e) : Phrase .negated e
  | compare (operator : Operator) {qualifier name : String} {right : Expr}
      (hqualifier : Text.isIdentifier qualifier = true) (hname : Text.isIdentifier name = true)
      (hright : Phrase .joined right) : Phrase .negated (.compare operator (.column (some qualifier) name) right)
  | compareNamed (operator : Operator) {name : String} {right : Expr} (hlike : operator ≠ .like)
      (hname : Text.isIdentifier name = true) (hright : Phrase .joined right) :
      Phrase .negated (.compare operator (.column none name) right)
  | inList (negated : Bool) {qualifier name : String} {items : List Expr}
      (hqualifier : Text.isIdentifier qualifier = true) (hname : Text.isIdentifier name = true) (hne : items ≠ [])
      (hitems : ∀ item ∈ items, Phrase .disjoined item) :
      Phrase .negated (.inList negated (.column (some qualifier) name) items)
  | isNull (negated : Bool) {qualifier name : String} (hqualifier : Text.isIdentifier qualifier = true)
      (hname : Text.isIdentifier name = true) : Phrase .negated (.isNull negated (.column (some qualifier) name))
  | not {e : Expr} (h : Phrase .negated e) : Phrase .negated (.not e)
  | ofNegated {e : Expr} (h : Phrase .negated e) : Phrase .conjoined e
  | all {parts : List Expr} (hne : parts ≠ []) (h : ∀ part ∈ parts, Phrase .negated part) :
      Phrase .conjoined (.all parts)
  | ofConjoined {e : Expr} (h : Phrase .conjoined e) : Phrase .disjoined e
  | any {parts : List Expr} (hne : parts ≠ []) (h : ∀ part ∈ parts, Phrase .conjoined part) :
      Phrase .disjoined (.any parts)

theorem Phrase.disjoined_of_operand {e : Expr} (h : Phrase .operand e) : Phrase .disjoined e :=
  .ofConjoined (.ofNegated (.ofJoined (.ofOperand h)))

/-! ### Texts of phrases -/

section Lexing

variable {stop : Char → Prop} {a : List Char} {s : List Token}

/-- Pieces with a separator between them that is a piece of its own. -/
theorem lexes_intercalate {α : Type} {separator : List Char} {separatorTokens : List Token}
    (hseparator : Lexes (fun _ => True) separator separatorTokens) (hne : separator ≠ [])
    (hstart : ∀ c ∈ separator.head?, Separates c) (text : α → List Char) (tokens : α → List Token) (parts : List α)
    (hparts : ∀ part ∈ parts, Lexes Separates (text part) (tokens part)) :
    Lexes Separates (separator.intercalate (parts.map text)) (separatorTokens.intercalate (parts.map tokens)) := by
  induction parts with
  | nil => exact Lexes.nil.mono fun _ _ => trivial
  | cons part rest ih =>
    have hpart := hparts part List.mem_cons_self
    have hrest := ih fun other hother => hparts other (List.mem_cons_of_mem _ hother)
    cases rest with
    | nil =>
      rw [List.map_singleton, List.map_singleton, List.intercalate_singleton, List.intercalate_singleton]
      exact hpart
    | cons second rest =>
      rw [List.map_cons, List.map_cons] at hrest
      rw [List.map_cons, List.map_cons, List.map_cons, List.map_cons, List.intercalate_cons_cons,
        List.intercalate_cons_cons]
      exact (hpart.append hseparator hne hstart).append_free hrest

theorem lexes_keyword (word : String) (h : Text.isIdentifier word = true) :
    Lexes (fun _ => True) (' ' :: (word.toList ++ [' '])) [.word word] := by
  have hword : Lexes Separates word.toList [.word word] := (lexes_word _ h).mono fun c hc => by
    rcases hc with rfl | rfl | rfl <;> decide
  exact Lexes.append_free Lexes.blank hword.append_blank

theorem isNumeral_of_digits {cs : List Char} (hne : cs ≠ []) (h : ∀ c ∈ cs, c.isDigit = true) : isNumeral cs = true := by
  cases cs with
  | nil => exact absurd rfl hne
  | cons c cs =>
    rw [isNumeral, h c List.mem_cons_self, Bool.true_and]
    exact continuesNumeral_of_digits _ (fun d hd => .inl (h d (List.mem_cons_of_mem _ hd))) _

theorem isNumeral_toDigits (n : Nat) : isNumeral (Nat.toDigits 10 n) = true :=
  isNumeral_of_digits Nat.toDigits_ne_nil fun _ => Number.isDigit_of_mem_toDigits

/-- Digits with a point among them, the first being a digit. -/
private theorem isNumeral_point (whole places : List Char) (hne : whole ≠ []) (hwhole : ∀ c ∈ whole, c.isDigit = true)
    (hplaces : ∀ c ∈ places, c.isDigit = true) : isNumeral (whole ++ '.' :: places) = true := by
  cases whole with
  | nil => exact absurd rfl hne
  | cons first others =>
    rw [List.cons_append, isNumeral, hwhole first List.mem_cons_self, Bool.true_and]
    refine continuesNumeral_of_digits _ (fun c hc => ?_) _
    rcases List.mem_append.1 hc with hc | hc
    · exact .inl (hwhole c (List.mem_cons_of_mem _ hc))
    · rcases List.mem_cons.1 hc with rfl | hc
      · exact .inr rfl
      · exact .inl (hplaces c hc)

private theorem isNumeral_positional {d : Digits} (hd : d.Proper) : isNumeral (d.positional ['.', '0']) = true := by
  rw [Digits.positional]
  split
  · apply isNumeral_point ['0'] (Digits.zeros (-d.point) ++ d.chars) (List.cons_ne_nil _ _)
      (List.forall_mem_singleton.2 rfl)
    intro c hc
    exact (List.mem_append.1 hc).elim Digits.isDigit_of_mem_zeros (hd.digits c)
  · split
    · refine isNumeral_point _ ['0'] (List.append_ne_nil_of_left_ne_nil hd.nonempty _) (fun c hc => ?_)
        (List.forall_mem_singleton.2 rfl)
      exact (List.mem_append.1 hc).elim (hd.digits c) Digits.isDigit_of_mem_zeros
    · refine isNumeral_point _ _ ?_ (fun c hc => hd.digits c (List.mem_of_mem_take hc))
        fun c hc => hd.digits c (List.mem_of_mem_drop hc)
      rw [Ne, List.take_eq_nil_iff]
      exact fun h => h.elim (fun hzero => by omega) hd.nonempty

/-- The power of ten may have a sign, since it stands after the mark. -/
private theorem continuesNumeral_power (read : List Char) (n : Int) :
    continuesNumeral read ('e' :: Number.writeInt n) = true := by
  have hdigits := continuesNumeral_of_digits (Nat.toDigits 10 n.natAbs) fun c hc =>
    .inl (Number.isDigit_of_mem_toDigits hc)
  rw [Number.writeInt]
  split
  · simp [continuesNumeral, continuesNumber, hdigits]
  · simp [continuesNumeral, continuesNumber, hdigits]

private theorem isNumeral_scientific {d : Digits} (hd : d.Proper) :
    isNumeral (d.scientific [] Number.writeInt) = true := by
  have hpower := fun read => continuesNumeral_power read (d.point - 1)
  cases hchars : d.chars with
  | nil => exact absurd hchars hd.nonempty
  | cons first others =>
    have hdigits := hd.digits
    rw [hchars] at hdigits
    have hfirst := hdigits first List.mem_cons_self
    cases others with
    | nil => simp [Digits.scientific, hchars, isNumeral, hfirst, hpower]
    | cons second others =>
      have hplaces := continuesNumeral_of_digits ('.' :: second :: others) (fun c hc => by
        rcases List.mem_cons.1 hc with rfl | hc
        · exact .inr rfl
        · exact .inl (hdigits c (List.mem_cons_of_mem _ hc))) [first]
      have htext : d.scientific [] Number.writeInt =
          first :: (('.' :: second :: others) ++ 'e' :: Number.writeInt (d.point - 1)) := by
        simp [Digits.scientific, hchars]
      rw [htext, isNumeral, hfirst, Bool.true_and, continuesNumeral_append, hplaces, hpower]
      rfl

theorem isNumeral_literalChars {d : Digits} (hd : d.Proper) : isNumeral (Double.literalChars d) = true := by
  rw [Double.literalChars]
  split
  · exact isNumeral_positional hd
  · exact isNumeral_scientific hd

/-- A number is one token, after the symbol for its sign. -/
theorem lexes_signed (negative : Bool) {digits : List Char} (h : isNumeral digits = true) :
    Lexes Separates (if negative then '-' :: digits else digits) (signedTokens negative digits) := by
  cases negative with
  | false => exact lexes_number h
  | true => exact (lexes_symbol (c := '-') rfl fun d => by simp [pairSymbol?]).append_free (lexes_number h)

theorem separates_not_wordPart {c : Char} (h : Separates c) : isWordPart c = false := by
  rcases h with rfl | rfl | rfl <;> decide

theorem separates_not_quote {c : Char} (h : Separates c) : c ≠ '\'' := by
  rcases h with rfl | rfl | rfl <;> decide

theorem lexes_name (name : String) (h : Text.isIdentifier name = true) : Lexes Separates name.toList [.word name] :=
  (lexes_word _ h).mono fun _ => separates_not_wordPart

theorem lexes_qualified {qualifier name : String} (hqualifier : Text.isIdentifier qualifier = true)
    (hname : Text.isIdentifier name = true) :
    Lexes Separates (columnText (some qualifier) name).toList (columnTokens (some qualifier) name) := by
  have hpoint : Lexes (fun _ => True) ['.'] [.symbol "."] := lexes_symbol rfl fun d => by simp [pairSymbol?]
  have h := (lexes_word _ hqualifier).append (hpoint.append_free (lexes_name _ hname)) (List.cons_ne_nil _ _) fun c hc => by
    cases hc
    decide
  simpa [columnText, columnTokens] using h

theorem lexes_open : Lexes (fun _ => True) ['('] [.symbol "("] :=
  lexes_symbol rfl fun d => by simp [pairSymbol?]

theorem lexes_close : Lexes (fun _ => True) [')'] [.symbol ")"] :=
  lexes_symbol rfl fun d => by simp [pairSymbol?]

theorem Lexes.append_close (ha : Lexes Separates a s) : Lexes (fun _ => True) (a ++ [')']) (s ++ [.symbol ")"]) :=
  ha.append lexes_close (List.cons_ne_nil _ _) fun c hc => by
    cases hc
    exact .inr (.inr rfl)

theorem lexes_character (code : Nat) :
    Lexes (fun _ => True) (Expr.character code).render.toList (Expr.character code).tokens := by
  have hword : Lexes (fun c => isWordPart c = false) ['c', 'h', 'a', 'r'] [.word "char"] :=
    lexes_word "char" (by decide)
  have hnumber := (lexes_number (isNumeral_toDigits code)).append_close
  have h := hword.append (lexes_open.append_free hnumber) (List.cons_ne_nil _ _) fun c hc => by
    cases hc
    decide
  simpa [Expr.render, Expr.tokens] using h

private theorem lexes_spaced {c : Char} (hstart : Scan.start c = .symbol c) (hpair : pairSymbol? c ' ' = none) :
    Lexes (fun _ => True) [' ', c, ' '] [.symbol (String.singleton c)] := by
  intro rest _
  change lex .between (' ' :: c :: ' ' :: rest) = _
  rw [lex_start ' ', show Scan.start ' ' = .between from rfl, lex_start c, hstart,
    lex_end rfl (fun d _ => rfl), lex_start ' ']
  · rfl
  · intro first hsymbol d hd
    cases hsymbol
    cases hd
    exact hpair

private theorem lexes_spaced_pair {c d : Char} {pair : String} (hstart : Scan.start c = .symbol c)
    (hpair : pairSymbol? c d = some pair) : Lexes (fun _ => True) [' ', c, d, ' '] [.symbol pair] := by
  intro rest _
  change lex .between (' ' :: c :: d :: ' ' :: rest) = _
  rw [lex_start ' ', show Scan.start ' ' = .between from rfl, lex_start c, hstart, lex_pair hpair, lex_start ' ']
  rfl

theorem lexes_operator (operator : Operator) :
    Lexes (fun _ => True) (' ' :: (operator.text.toList ++ [' '])) [operator.token] := by
  cases operator with
  | equal => exact lexes_spaced (c := '=') rfl rfl
  | notEqual => exact lexes_spaced_pair (c := '!') (d := '=') rfl rfl
  | less => exact lexes_spaced (c := '<') rfl rfl
  | atMost => exact lexes_spaced_pair (c := '<') (d := '=') rfl rfl
  | greater => exact lexes_spaced (c := '>') rfl rfl
  | atLeast => exact lexes_spaced_pair (c := '>') (d := '=') rfl rfl
  | like => exact lexes_keyword "LIKE" (by decide)

theorem lexes_comma : Lexes (fun _ => True) [',', ' '] [.symbol ","] :=
  Lexes.append_free (a := [',']) (s := [.symbol ","]) (lexes_symbol rfl fun d => by simp [pairSymbol?]) Lexes.blank

theorem lexes_commaList {α : Type} (text : α → String) (tokens : α → List Token) (parts : List α)
    (hparts : ∀ part ∈ parts, Lexes Separates (text part).toList (tokens part)) :
    Lexes Separates (commaList (parts.map text)).toList ([.symbol ","].intercalate (parts.map tokens)) := by
  have h := lexes_intercalate lexes_comma (List.cons_ne_nil _ _) (fun c hc => by
    cases hc
    exact .inr (.inl rfl)) (fun part => (text part).toList) tokens parts hparts
  rw [commaList, String.toList_intercalate, List.map_map]
  exact h

private theorem lexes_connective (word : String) (hword : Text.isIdentifier word = true) {parts : List Expr}
    (hparts : ∀ part ∈ parts, Lexes Separates part.render.toList part.tokens) :
    Lexes Separates ((" " ++ word ++ " ").intercalate (Expr.renderAll parts)).toList
      ([.word word].intercalate (Expr.tokensAll parts)) := by
  have hkeyword := lexes_keyword _ hword
  have h := lexes_intercalate hkeyword (List.cons_ne_nil _ _) (fun c hc => by
    cases hc
    exact .inl rfl) (fun part => part.render.toList) Expr.tokens parts hparts
  have htext : (" " ++ word ++ " ").toList = ' ' :: (word.toList ++ [' ']) := by simp
  rw [String.toList_intercalate, Expr.renderAll_eq_map, Expr.tokensAll_eq_map, List.map_map, htext]
  exact h

theorem Phrase.lexes {level : Level} {e : Expr} (h : Phrase level e) : Lexes Separates e.render.toList e.tokens := by
  induction h with
  | null => exact lexes_name "NULL" (by decide)
  | integer value =>
    have h := lexes_signed (value.toInt < 0) (isNumeral_toDigits value.toInt.natAbs)
    simpa [Expr.render, Expr.tokens, Number.writeInt] using h
  | real hfinite =>
    rw [Expr.render, Expr.tokens, Double.literal_toList hfinite]
    exact lexes_signed _ (isNumeral_literalChars (Double.digits_spec hfinite).1)
  | text value => exact (lexes_quotedText value).mono fun _ => separates_not_quote
  | truth value =>
    cases value with
    | true => exact lexes_name "TRUE" (by decide)
    | false => exact lexes_name "FALSE" (by decide)
  | column hqualifier hname => exact lexes_qualified hqualifier hname
  | plain hname => exact lexes_name _ (Bool.and_eq_true_iff.1 hname).1
  | character code => exact (lexes_character code).mono fun _ _ => trivial
  | group _ ih =>
    have h := lexes_open.append_free ih.append_close
    simpa [Expr.render, Expr.tokens] using h.mono fun _ _ => trivial
  | ofOperand _ ih => exact ih
  | concat _ _ ihLeft ihRight =>
    have hbars : Lexes (fun _ => True) [' ', '|', '|', ' '] [.symbol "||"] := lexes_spaced_pair rfl rfl
    have h := ihLeft.append_spaced (hbars.append_free ihRight)
    simpa [Expr.render, Expr.tokens] using h
  | ofJoined _ ih => exact ih
  | compare operator hqualifier hname _ ih =>
    have h := (lexes_qualified hqualifier hname).append_spaced ((lexes_operator operator).append_free ih)
    simpa [Expr.render, Expr.tokens] using h
  | compareNamed operator _ hname _ ih =>
    have h := (lexes_name _ hname).append_spaced ((lexes_operator operator).append_free ih)
    simpa [Expr.render, Expr.tokens, columnText, columnTokens] using h
  | inList negated hqualifier hname _ _ ih =>
    have hitems := lexes_commaList Expr.render Expr.tokens _ ih
    have hin : Lexes (fun _ => True) ['I', 'N', ' '] [.word "IN"] := (lexes_name "IN" (by decide)).append_blank
    cases negated with
    | false =>
      have h := (lexes_qualified hqualifier hname).append_spaced
        (Lexes.blank.append_free (hin.append_free (lexes_open.append_free hitems.append_close)))
      simpa [Expr.render, Expr.tokens, Expr.renderAll_eq_map, Expr.tokensAll_eq_map, commaList] using h.mono fun _ _ => trivial
    | true =>
      have hnot := lexes_keyword "NOT" (by decide)
      have h := (lexes_qualified hqualifier hname).append_spaced
        (hnot.append_free (hin.append_free (lexes_open.append_free hitems.append_close)))
      simpa [Expr.render, Expr.tokens, Expr.renderAll_eq_map, Expr.tokensAll_eq_map, commaList] using h.mono fun _ _ => trivial
  | isNull negated hqualifier hname =>
    have hnull : Lexes Separates ['N', 'U', 'L', 'L'] [.word "NULL"] := lexes_name "NULL" (by decide)
    have hnot : Lexes (fun _ => True) ['N', 'O', 'T', ' '] [.word "NOT"] :=
      (lexes_name "NOT" (by decide)).append_blank
    have his := lexes_keyword "IS" (by decide)
    cases negated with
    | false =>
      have h := (lexes_qualified hqualifier hname).append_spaced (his.append_free hnull)
      simpa [Expr.render, Expr.tokens] using h
    | true =>
      have h := (lexes_qualified hqualifier hname).append_spaced (his.append_free (hnot.append_free hnull))
      simpa [Expr.render, Expr.tokens] using h
  | not _ ih =>
    have hnot : Lexes (fun _ => True) ['N', 'O', 'T', ' '] [.word "NOT"] :=
      (lexes_name "NOT" (by decide)).append_blank
    simpa [Expr.render, Expr.tokens] using hnot.append_free ih
  | ofNegated _ ih => exact ih
  | all _ _ ih => exact lexes_connective "AND" (by decide) ih
  | ofConjoined _ ih => exact ih
  | any _ _ ih => exact lexes_connective "OR" (by decide) ih

end Lexing

end ObjectStore.Sql
