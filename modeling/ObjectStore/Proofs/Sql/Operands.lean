import ObjectStore.Proofs.Sql.Literals
import ObjectStore.Proofs.Sql.Parsing

/-!
# Reading one operand of a text

A literal can be told from what follows it. An operand is read token by token, as the scanner finds them, and only as far as it goes: a text is string literals and characters by their codes with bars between them, a list is values between parentheses. Whatever the compilers put after a literal neither goes on with its last token nor is a bar, so reading ends with the literal and comes to the value that was written.
-/

namespace ObjectStore

namespace Sql

/-! ### Reading -/

/-- The token that the scanner is in the middle of, and the text after it. -/
def Scan.token? : Scan → List Char → Option (Token × List Char)
  | mode, [] => mode.finish?.join.map (·, [])
  | mode, c :: rest =>
    match mode, mode.continue? c with
    | _, some next => next.token? rest
    | .between, none => (Scan.start c).token? rest
    | .symbol first, none =>
      match pairSymbol? first c with
      | some pair => some (.symbol pair, rest)
      | none => some (.symbol (String.singleton first), c :: rest)
    | mode, none => mode.finish?.join.map (·, c :: rest)

/-- The first token of a text, and the text after it. -/
def firstToken? (text : List Char) : Option (Token × List Char) := Scan.between.token? text

/-- The text after a symbol that it starts with. -/
def afterSymbol? (symbol : String) (text : List Char) : Option (List Char) :=
  match firstToken? text with
  | some (.symbol found, rest) => if found = symbol then some rest else none
  | _ => none

/-- The character by its code, between parentheses. -/
def readCode? (text : List Char) : Option (String × List Char) := do
  let text ← afterSymbol? "(" text
  match ← firstToken? text with
  | (.number digits, text) =>
    let code ← Number.readNat digits.toList
    let text ← afterSymbol? ")" text
    some (String.singleton (Char.ofNat code), text)
  | _ => none

/-- A string literal, or a character by its code. -/
def readPiece? (text : List Char) : Option (String × List Char) :=
  match firstToken? text with
  | some (.text s, rest) => some (s, rest)
  | some (.word word, rest) => if Text.sameName word "CHAR" then readCode? rest else none
  | _ => none

/-- Pieces with bars between them, at most `bound` of them, as one text. -/
def readText? : Nat → List Char → Option (String × List Char)
  | 0, _ => none
  | bound + 1, text => do
    let (first, text) ← readPiece? text
    match afterSymbol? "||" text with
    | some more =>
      let (others, text) ← readText? bound more
      some (first ++ others, text)
    | none => some (first, text)

/-- The number of digits that have been read, with its sign. -/
def numberValue? (negative : Bool) (digits : String) : Option Value :=
  (Expr.number? negative digits).bind Expr.value?

/-- As many pieces as the text may hold. -/
def readString? (text : List Char) : Option (Value × List Char) :=
  (readText? (text.length + 1) text).map fun (s, rest) => (.string s, rest)

/-- A number, a word for a value, or a text. -/
def readScalar? (text : List Char) : Option (Value × List Char) :=
  match firstToken? text with
  | some (.number digits, rest) => (numberValue? false digits).map (·, rest)
  | some (.symbol "-", rest) =>
    match firstToken? rest with
    | some (.number digits, rest) => (numberValue? true digits).map (·, rest)
    | _ => none
  | some (.word word, rest) =>
    if Text.sameName word "NULL" then some (.null, rest)
    else if Text.sameName word "TRUE" then some (.boolean true, rest)
    else if Text.sameName word "FALSE" then some (.boolean false, rest)
    else readString? text
  | _ => readString? text

/-- Values with commas between them, at most `bound` of them, up to the closing parenthesis. -/
def readScalars? : Nat → List Char → Option (List Value × List Char)
  | 0, _ => none
  | bound + 1, text => do
    let (first, text) ← readScalar? text
    match afterSymbol? "," text with
    | some more =>
      let (others, text) ← readScalars? bound more
      some (first :: others, text)
    | none => (afterSymbol? ")" text).map ([first], ·)

/-- One operand at the start of a text, and the text after it. -/
def readOperand? (text : List Char) : Option (Value × List Char) :=
  match afterSymbol? "(" text with
  | none => readScalar? text
  | some inner =>
    match afterSymbol? ")" inner with
    | some rest => some (.list [], rest)
    | none => (readScalars? (inner.length + 1) inner).map fun (items, rest) => (.list items, rest)

/-! ### First tokens -/

section Tokens

variable {stop : Char → Prop} {rest : List Char}

theorem Scan.token?_run {mode next : Scan} {cs : List Char} (h : mode.run cs = some next) (rest : List Char) :
    mode.token? (cs ++ rest) = next.token? rest := by
  induction cs generalizing mode with
  | nil =>
    cases h
    rfl
  | cons c cs ih =>
    obtain ⟨middle, hc, hrest⟩ := Option.bind_eq_some_iff.1 h
    rw [List.cons_append, token?.eq_def]
    simp only [hc]
    exact ih hrest

/-- A token ends before a character that does not continue it. -/
theorem Scan.token?_end {mode : Scan} {token : Token} (hfinish : mode.finish? = some (some token))
    (hstop : ∀ c ∈ rest.head?, mode.continue? c = none)
    (hpair : ∀ first, mode = .symbol first → ∀ c ∈ rest.head?, pairSymbol? first c = none) :
    mode.token? rest = some (token, rest) := by
  cases rest with
  | nil =>
    rw [token?, hfinish]
    rfl
  | cons c rest =>
    rw [token?.eq_def]
    simp only [hstop c rfl]
    cases mode with
    | symbol first =>
      cases hfinish
      simp only [hpair first rfl c rfl]
    | between => cases hfinish
    | text read => cases hfinish
    | failed => cases hfinish
    | word read => cases hfinish; rfl
    | number read => cases hfinish; rfl
    | quote read => cases hfinish; rfl

theorem Scan.lex_of_token? {mode : Scan} {text : List Char} {token : Token} (h : mode.token? text = some (token, rest)) :
    lex mode text = (lex .between rest).map (token :: ·) := by
  induction text generalizing mode with
  | nil =>
    cases mode <;> cases h <;> rfl
  | cons c text ih =>
    rw [token?.eq_def] at h
    cases hnext : mode.continue? c with
    | some next =>
      simp only [hnext] at h
      rw [lex_continue hnext, ih h]
    | none =>
      simp only [hnext] at h
      have hstop : ∀ d ∈ (c :: text).head?, mode.continue? d = none := by
        intro d hd
        cases hd
        exact hnext
      cases mode with
      | between => rw [lex_start, ih h]
      | symbol first =>
        cases hpair : pairSymbol? first c with
        | some pair =>
          simp only [hpair] at h
          cases h
          exact lex_pair hpair _
        | none =>
          simp only [hpair] at h
          cases h
          refine lex_end rfl hstop fun start hstart d hd => ?_
          cases hstart
          cases hd
          exact hpair
      | text read => cases h
      | failed => cases h
      | word read =>
        cases h
        exact lex_end rfl hstop fun start hstart => by cases hstart
      | number read =>
        cases h
        exact lex_end rfl hstop fun start hstart => by cases hstart
      | quote read =>
        cases h
        exact lex_end rfl hstop fun start hstart => by cases hstart

/-- The first token is the one that the scanner finds first in the whole text, and it goes on with the text after it. -/
theorem lex_of_firstToken? {text : List Char} {token : Token} (h : firstToken? text = some (token, rest)) :
    lex .between text = (lex .between rest).map (token :: ·) :=
  Scan.lex_of_token? h

theorem Spells.firstToken? {first : Char} {others : List Char} {token : Token} {mode : Scan}
    (h : Spells stop first others token mode) (hrest : ∀ c ∈ rest.head?, stop c) :
    firstToken? (first :: others ++ rest) = some (token, rest) := by
  rw [List.cons_append, Sql.firstToken?, Scan.token?.eq_def]
  change (Scan.start first).token? (others ++ rest) = _
  rw [Scan.token?_run h.run]
  exact Scan.token?_end h.finish (fun c hc => h.ends c (hrest c hc)) fun start hsymbol c hc =>
    h.single start hsymbol c (hrest c hc)

theorem firstToken?_blank (text : List Char) : firstToken? (' ' :: text) = firstToken? text := rfl

theorem firstToken?_bars (text : List Char) : firstToken? ('|' :: '|' :: text) = some (.symbol "||", text) := rfl

theorem firstToken?_word {word : String} (h : Text.isIdentifier word = true)
    (hrest : ∀ c ∈ rest.head?, isWordPart c = false) : firstToken? (word.toList ++ rest) = some (.word word, rest) := by
  obtain ⟨first, others, mode, hword, hspells⟩ := spells_word h
  rw [hword]
  exact hspells.firstToken? hrest

theorem firstToken?_number {digits : List Char} (h : isNumeral digits = true) (hrest : ∀ c ∈ rest.head?, Separates c) :
    firstToken? (digits ++ rest) = some (.number (String.ofList digits), rest) := by
  obtain ⟨first, others, mode, hdigits, hspells⟩ := spells_number h
  rw [hdigits] at hspells ⊢
  exact hspells.firstToken? hrest

theorem firstToken?_quotedText (s : String) (hrest : ∀ c ∈ rest.head?, c ≠ '\'') :
    firstToken? ((quotedText s).toList ++ rest) = some (.text s, rest) := by
  rw [quotedText_toList]
  exact (spells_quotedText s).firstToken? hrest

theorem firstToken?_symbol {c : Char} (hstart : Scan.start c = .symbol c) (hsingle : ∀ d, pairSymbol? c d = none)
    (text : List Char) : firstToken? (c :: text) = some (.symbol (String.singleton c), text) :=
  (spells_symbol hstart hsingle).firstToken? fun _ _ => trivial

theorem firstToken?_open (text : List Char) : firstToken? ('(' :: text) = some (.symbol "(", text) :=
  firstToken?_symbol rfl (fun d => by simp [pairSymbol?]) text

theorem firstToken?_close (text : List Char) : firstToken? (')' :: text) = some (.symbol ")", text) :=
  firstToken?_symbol rfl (fun d => by simp [pairSymbol?]) text

theorem firstToken?_comma (text : List Char) : firstToken? (',' :: text) = some (.symbol ",", text) :=
  firstToken?_symbol rfl (fun d => by simp [pairSymbol?]) text

theorem firstToken?_minus (text : List Char) : firstToken? ('-' :: text) = some (.symbol "-", text) :=
  firstToken?_symbol rfl (fun d => by simp [pairSymbol?]) text

theorem afterSymbol?_self {symbol : String} {text : List Char} (h : firstToken? text = some (.symbol symbol, rest)) :
    afterSymbol? symbol text = some rest := by
  rw [afterSymbol?, h]
  exact if_pos rfl

theorem afterSymbol?_of_ne {symbol : String} {text : List Char} {token : Token} (h : firstToken? text = some (token, rest))
    (hne : token ≠ .symbol symbol) : afterSymbol? symbol text = none := by
  rw [afterSymbol?, h]
  cases token with
  | symbol found => exact if_neg fun heq => hne (congrArg Token.symbol heq)
  | _ => rfl

end Tokens

/-! ### Where literals end -/

/-- What goes on with no literal: its first character ends the last token, and its first token is no bars. -/
structure Ends (rest : List Char) : Prop where
  separates : ∀ c ∈ rest.head?, Separates c
  bars : afterSymbol? "||" rest = none

theorem Ends.not_quote {rest : List Char} (h : Ends rest) : ∀ c ∈ rest.head?, c ≠ '\'' :=
  fun c hc => separates_not_quote (h.separates c hc)

theorem Ends.not_wordPart {rest : List Char} (h : Ends rest) : ∀ c ∈ rest.head?, isWordPart c = false :=
  fun c hc => separates_not_wordPart (h.separates c hc)

theorem ends_nil : Ends [] := ⟨fun c hc => absurd hc (by simp), rfl⟩

theorem ends_comma (rest : List Char) : Ends (',' :: rest) where
  separates c hc := by
    cases hc
    exact .inr (.inl rfl)
  bars := afterSymbol?_of_ne (firstToken?_comma rest) (by decide)

theorem ends_close (rest : List Char) : Ends (')' :: rest) where
  separates c hc := by
    cases hc
    exact .inr (.inr rfl)
  bars := afterSymbol?_of_ne (firstToken?_close rest) (by decide)

theorem ends_keyword (word : String) (h : Text.isIdentifier word = true) (rest : List Char) :
    Ends (' ' :: (word.toList ++ ' ' :: rest)) where
  separates c hc := by
    cases hc
    exact .inl rfl
  bars := by
    have hword : firstToken? (' ' :: (word.toList ++ ' ' :: rest)) = some (.word word, ' ' :: rest) :=
      firstToken?_word h fun c hc => by
        cases hc
        decide
    exact afterSymbol?_of_ne hword Token.noConfusion

/-- The texts that stand after a literal in a statement. -/
def literalStops : List String := [",", ")", " AND ", " OR ", " WHERE ", " ORDER BY ", " LIMIT "]

/-- A text that is empty or starts with one of them. -/
def FollowsLiteral (following : List Char) : Prop :=
  following = [] ∨ ∃ stop ∈ literalStops, stop.toList <+: following

theorem FollowsLiteral.ends {following : List Char} (h : FollowsLiteral following) : Ends following := by
  rcases h with rfl | ⟨stop, hstop, rest, rfl⟩
  · exact ends_nil
  · simp only [literalStops, List.mem_cons, List.not_mem_nil, or_false] at hstop
    rcases hstop with rfl | rfl | rfl | rfl | rfl | rfl | rfl
    · exact ends_comma rest
    · exact ends_close rest
    · exact ends_keyword "AND" (by decide) rest
    · exact ends_keyword "OR" (by decide) rest
    · exact ends_keyword "WHERE" (by decide) rest
    · exact ends_keyword "ORDER" (by decide) ('B' :: 'Y' :: ' ' :: rest)
    · exact ends_keyword "LIMIT" (by decide) rest

/-! ### Texts -/

theorem readPiece?_blank (text : List Char) : readPiece? (' ' :: text) = readPiece? text := by
  rw [readPiece?, readPiece?, firstToken?_blank]

theorem readPiece?_quotedText (s : String) {rest : List Char} (hrest : ∀ c ∈ rest.head?, c ≠ '\'') :
    readPiece? ((quotedText s).toList ++ rest) = some (s, rest) := by
  rw [readPiece?, firstToken?_quotedText s hrest]

theorem readPiece?_character (code : Nat) (rest : List Char) :
    readPiece? ((Expr.character code).render.toList ++ rest) = some (String.singleton (Char.ofNat code), rest) := by
  have htext : (Expr.character code).render.toList ++ rest =
      "char".toList ++ '(' :: (Nat.toDigits 10 code ++ ')' :: rest) := by
    simp [Expr.render]
  have hword : firstToken? ("char".toList ++ '(' :: (Nat.toDigits 10 code ++ ')' :: rest)) =
      some (.word "char", '(' :: (Nat.toDigits 10 code ++ ')' :: rest)) :=
    firstToken?_word (by decide) fun c hc => by
      cases hc
      decide
  have hnumber : firstToken? (Nat.toDigits 10 code ++ ')' :: rest) =
      some (.number (String.ofList (Nat.toDigits 10 code)), ')' :: rest) :=
    firstToken?_number (isNumeral_toDigits code) (ends_close rest).separates
  have hname : Text.sameName "char" "CHAR" = true := by decide
  rw [htext, readPiece?, hword]
  simp only [hname, if_true]
  rw [readCode?, afterSymbol?_self (firstToken?_open _), Option.bind_eq_bind, Option.bind_some, hnumber]
  simp only [Option.bind_eq_bind, Option.bind_some, String.toList_ofList, Number.readNat_toDigits,
    afterSymbol?_self (firstToken?_close rest)]

theorem readText?_blank (bound : Nat) (text : List Char) : readText? bound (' ' :: text) = readText? bound text := by
  cases bound with
  | zero => rfl
  | succ bound => rw [readText?, readText?, readPiece?_blank]

theorem readText?_bars {text more rest : List Char} {first others : String} {bound : Nat}
    (hfirst : readPiece? text = some (first, ' ' :: '|' :: '|' :: more)) (hmore : readText? bound more = some (others, rest)) :
    readText? (bound + 1) text = some (first ++ others, rest) := by
  have hbars : afterSymbol? "||" (' ' :: '|' :: '|' :: more) = some more := afterSymbol?_self (firstToken?_bars more)
  simp only [readText?, hfirst, Option.bind_eq_bind, Option.bind_some, hbars, hmore]

theorem readText?_end {text rest : List Char} {first : String} (bound : Nat) (hfirst : readPiece? text = some (first, rest))
    (hrest : afterSymbol? "||" rest = none) : readText? (bound + 1) text = some (first, rest) := by
  simp only [readText?, hfirst, Option.bind_eq_bind, Option.bind_some, hrest]

theorem readText?_mono {bound : Nat} {text rest : List Char} {s : String} (h : readText? bound text = some (s, rest)) :
    readText? (bound + 1) text = some (s, rest) := by
  induction bound generalizing text s with
  | zero => cases h
  | succ bound ih =>
    obtain ⟨⟨first, after⟩, hfirst, h⟩ := Option.bind_eq_some_iff.1 h
    cases hbars : afterSymbol? "||" after with
    | none =>
      simp only [hbars, Option.some.injEq, Prod.mk.injEq] at h
      obtain ⟨rfl, rfl⟩ := h
      exact readText?_end _ hfirst hbars
    | some more =>
      simp only [hbars] at h
      obtain ⟨⟨others, rest'⟩, hmore, h⟩ := Option.bind_eq_some_iff.1 h
      simp only [Option.some.injEq, Prod.mk.injEq] at h
      obtain ⟨rfl, rfl⟩ := h
      rw [readText?, hfirst, Option.bind_eq_bind, Option.bind_some]
      simp only [hbars, ih hmore, Option.bind_some]

/-- Controls, each with the characters after it, as they are joined to what stands before them. -/
def spliced : List (Char × List Char) → List Char
  | [] => []
  | (c, piece) :: more =>
    ' ' :: '|' :: '|' :: ' ' :: ((Expr.character c.toNat).render.toList ++
      ' ' :: '|' :: '|' :: ' ' :: ((quotedText (String.ofList piece)).toList ++ spliced more))

theorem length_spliced (more : List (Char × List Char)) : 2 * more.length ≤ (spliced more).length := by
  induction more with
  | nil => exact Nat.le_refl _
  | cons splice more ih =>
    simp only [spliced, List.length_cons, List.length_append]
    omega

theorem spliced_not_quote (more : List (Char × List Char)) {rest : List Char} (hrest : ∀ c ∈ rest.head?, c ≠ '\'') :
    ∀ c ∈ (spliced more ++ rest).head?, c ≠ '\'' := by
  cases more with
  | nil => exact hrest
  | cons splice more =>
    intro c hc
    cases hc
    decide

/-- Two pieces are read for every control. -/
theorem readText?_spliced (more : List (Char × List Char)) (first : String) {bound : Nat} (hbound : 2 * more.length < bound)
    {rest : List Char} (hrest : Ends rest) :
    readText? bound ((quotedText first).toList ++ (spliced more ++ rest)) =
      some (first ++ String.ofList (more.flatMap fun splice => splice.1 :: splice.2), rest) := by
  have hfirst := readPiece?_quotedText first (spliced_not_quote more hrest.not_quote)
  induction more generalizing first bound with
  | nil =>
    obtain ⟨bound, rfl⟩ := Nat.exists_eq_add_one_of_ne_zero (Nat.ne_zero_of_lt hbound)
    rw [List.flatMap_nil, String.ofList_nil, String.append_empty]
    exact readText?_end bound hfirst hrest.bars
  | cons splice more ih =>
    obtain ⟨c, piece⟩ := splice
    rw [List.length_cons] at hbound
    obtain ⟨bound, rfl⟩ : ∃ n, bound = n + 2 := ⟨bound - 2, by omega⟩
    have hothers := ih (String.ofList piece) (show 2 * more.length < bound by omega)
      (readPiece?_quotedText _ (spliced_not_quote more hrest.not_quote))
    rw [← readText?_blank] at hothers
    have hcode := readText?_bars (readPiece?_character c.toNat (' ' :: '|' :: '|' :: ' ' ::
      ((quotedText (String.ofList piece)).toList ++ (spliced more ++ rest)))) hothers
    rw [← readText?_blank, Char.ofNat_toNat] at hcode
    have htext : spliced ((c, piece) :: more) ++ rest = ' ' :: '|' :: '|' :: ' ' ::
        ((Expr.character c.toNat).render.toList ++ ' ' :: '|' :: '|' :: ' ' ::
          ((quotedText (String.ofList piece)).toList ++ (spliced more ++ rest))) := by
      simp [spliced]
    have hvalue : String.ofList (((c, piece) :: more).flatMap fun splice => splice.1 :: splice.2) =
        String.singleton c ++ (String.ofList piece ++ String.ofList (more.flatMap fun splice => splice.1 :: splice.2)) := by
      apply String.toList_injective
      simp
    rw [htext] at hfirst ⊢
    rw [hvalue]
    exact readText?_bars hfirst hcode

namespace Expr

private theorem render_splices (more : List (Char × List Char)) (e : Expr) :
    (more.foldl (fun e (c, piece) => concat (concat e (.character c.toNat)) (text (String.ofList piece))) e).render.toList =
      e.render.toList ++ spliced more := by
  induction more generalizing e with
  | nil => exact (List.append_nil _).symm
  | cons splice more ih =>
    rw [List.foldl_cons, ih]
    simp [render, spliced]

theorem render_ofText (s : String) :
    (ofText s).render.toList =
      (quotedText (String.ofList (pieces s.toList).1)).toList ++ spliced (pieces s.toList).2 :=
  render_splices (pieces s.toList).2 (text (String.ofList (pieces s.toList).1))

end Expr

/-! ### Scalars -/

/-- The text is read as the value before whatever ends it, and it does not start with a parenthesis. -/
structure ReadsAs (text : List Char) (value : Value) : Prop where
  read : ∀ rest, Ends rest → readScalar? (text ++ rest) = some (value, rest)
  notOpen : ∀ rest, Ends rest → afterSymbol? "(" (text ++ rest) = none
  notClose : ∀ rest, Ends rest → afterSymbol? ")" (text ++ rest) = none

namespace ReadsAs

/-- The start of a text decides that it starts with no parenthesis. -/
theorem intro {text : List Char} {value : Value}
    (h : ∀ rest, Ends rest → readScalar? (text ++ rest) = some (value, rest) ∧ ∃ token after,
      firstToken? (text ++ rest) = some (token, after) ∧ token ≠ .symbol "(" ∧ token ≠ .symbol ")") : ReadsAs text value where
  read rest hrest := (h rest hrest).1
  notOpen rest hrest := by
    obtain ⟨-, token, after, htoken, hopen, -⟩ := h rest hrest
    exact afterSymbol?_of_ne htoken hopen
  notClose rest hrest := by
    obtain ⟨-, token, after, htoken, -, hclose⟩ := h rest hrest
    exact afterSymbol?_of_ne htoken hclose

theorem word (word : String) {value : Value} (hidentifier : Text.isIdentifier word = true)
    (hvalue : ∀ rest, firstToken? (word.toList ++ rest) = some (.word word, rest) →
      readScalar? (word.toList ++ rest) = some (value, rest)) : ReadsAs word.toList value :=
  intro fun rest hrest =>
    have hword := firstToken?_word hidentifier hrest.not_wordPart
    ⟨hvalue rest hword, .word word, rest, hword, Token.noConfusion, Token.noConfusion⟩

theorem null : ReadsAs "NULL".toList .null :=
  word "NULL" (by decide) fun rest hword => by
    rw [readScalar?, hword]
    exact if_pos (by decide)

theorem truth (b : Bool) : ReadsAs (Expr.truth b).render.toList (.boolean b) := by
  cases b with
  | true =>
    exact word "TRUE" (by decide) fun rest hword => by
      rw [readScalar?, hword]
      exact (if_neg (by decide)).trans (if_pos (by decide))
  | false =>
    exact word "FALSE" (by decide) fun rest hword => by
      rw [readScalar?, hword]
      exact (if_neg (by decide)).trans ((if_neg (by decide)).trans (if_pos (by decide)))

theorem signed (negative : Bool) {digits : List Char} {value : Value} (h : isNumeral digits = true)
    (hvalue : numberValue? negative (String.ofList digits) = some value) :
    ReadsAs (if negative then '-' :: digits else digits) value :=
  intro fun rest hrest => by
    have hnumber := firstToken?_number h hrest.separates
    cases negative with
    | false =>
      refine ⟨?_, _, _, hnumber, Token.noConfusion, Token.noConfusion⟩
      change readScalar? (digits ++ rest) = _
      simp only [readScalar?, hnumber, hvalue, Option.map_some]
    | true =>
      refine ⟨?_, _, _, firstToken?_minus _, by decide, by decide⟩
      change readScalar? ('-' :: (digits ++ rest)) = _
      have hminus := firstToken?_minus (digits ++ rest)
      simp only [readScalar?, hminus, hnumber, hvalue, Option.map_some]

theorem integer (n : Int64) : ReadsAs (Expr.integer n).render.toList (.integer n) := by
  have hvalue : numberValue? (n.toInt < 0) (String.ofList (Nat.toDigits 10 n.toInt.natAbs)) = some (.integer n) := by
    rw [numberValue?, Expr.number?_integer]
    rfl
  have h := signed _ (isNumeral_toDigits n.toInt.natAbs) hvalue
  rw [Expr.render, String.toList_ofList, Number.writeInt]
  simpa using h

theorem real {d : Double} (hfinite : d.isFinite = true) : ReadsAs (Expr.real d).render.toList (.double d) := by
  have hvalue : numberValue? d.negative (String.ofList (Double.literalChars d.digits)) = some (.double d) := by
    rw [numberValue?, Expr.number?_real hfinite]
    rfl
  rw [Expr.render, Double.literal_toList hfinite]
  exact signed _ (isNumeral_literalChars (Double.digits_spec hfinite).1) hvalue

theorem ofText (s : String) : ReadsAs (Expr.ofText s).render.toList (.string s) :=
  intro fun rest hrest => by
    generalize hpieces : Expr.pieces s.toList = split
    obtain ⟨first, more⟩ := split
    have hs : String.ofList first ++ String.ofList (more.flatMap fun splice => splice.1 :: splice.2) = s := by
      have hflatten := Expr.Denotes.pieces_flatten s.toList
      rw [hpieces] at hflatten
      rw [← String.ofList_append, hflatten, String.ofList_toList]
    have hstart := firstToken?_quotedText (String.ofList first) (spliced_not_quote more hrest.not_quote)
    have hbound : 2 * more.length < ((quotedText (String.ofList first)).toList ++ (spliced more ++ rest)).length + 1 := by
      have hlength := length_spliced more
      simp only [List.length_append]
      omega
    have hread := readText?_spliced more (String.ofList first) hbound hrest
    rw [hs] at hread
    rw [Expr.render_ofText, hpieces, List.append_assoc]
    refine ⟨?_, _, _, hstart, Token.noConfusion, Token.noConfusion⟩
    rw [readScalar?, hstart]
    simp only [readString?, hread, Option.map_some]

end ReadsAs

theorem readsAs_of_scalar {listKind : String} {value : Value} {e : Expr} (h : value.scalar listKind = .ok e) :
    ReadsAs e.render.toList value := by
  cases value with
  | null =>
    cases h
    exact .null
  | string s =>
    cases h
    exact .ofText s
  | integer n =>
    cases h
    exact .integer n
  | double d =>
    rw [Value.scalar] at h
    split at h
    · next hfinite =>
      cases h
      exact .real hfinite
    · cases h
  | boolean b =>
    cases h
    exact .truth b
  | object className fields => cases h
  | list items => cases h

/-! ### Lists -/

theorem readString?_blank {text rest : List Char} {value : Value} (h : readString? text = some (value, rest)) :
    readString? (' ' :: text) = some (value, rest) := by
  obtain ⟨⟨s, rest'⟩, hread, heq⟩ := Option.map_eq_some_iff.1 h
  -- one more character leaves room for one more piece
  rw [readString?, readText?_blank, List.length_cons, readText?_mono hread, Option.map_some, heq]

theorem readScalar?_blank {text rest : List Char} {value : Value} (h : readScalar? text = some (value, rest)) :
    readScalar? (' ' :: text) = some (value, rest) := by
  rw [readScalar?] at h
  rw [readScalar?, firstToken?_blank]
  split at h
  · exact h
  · exact h
  · split_ifs at h ⊢
    · exact h
    · exact h
    · exact h
    · exact readString?_blank h
  · exact readString?_blank h

theorem readScalars?_blank {bound : Nat} {text rest : List Char} {items : List Value}
    (h : readScalars? bound text = some (items, rest)) : readScalars? bound (' ' :: text) = some (items, rest) := by
  cases bound with
  | zero => cases h
  | succ bound =>
    obtain ⟨⟨first, after⟩, hfirst, hothers⟩ := Option.bind_eq_some_iff.1 h
    rw [readScalars?, readScalar?_blank hfirst]
    exact hothers

/-- The elements of a list, up to its closing parenthesis. -/
theorem readScalars?_intercalate {items : List Value} {texts : List (List Char)} (h : List.Forall₂ ReadsAs texts items)
    (hne : items ≠ []) {bound : Nat} (hbound : items.length ≤ bound) (rest : List Char) :
    readScalars? bound ([',', ' '].intercalate texts ++ ')' :: rest) = some (items, rest) := by
  induction h generalizing bound with
  | nil => exact absurd rfl hne
  | @cons text item texts items hfirst hothers ih =>
    obtain ⟨bound, rfl⟩ := Nat.exists_eq_add_one_of_ne_zero (show bound ≠ 0 by simp at hbound; omega)
    cases hothers with
    | nil =>
      have hcomma : afterSymbol? "," (')' :: rest) = none := afterSymbol?_of_ne (firstToken?_close rest) (by decide)
      have hclose : afterSymbol? ")" (')' :: rest) = some rest := afterSymbol?_self (firstToken?_close rest)
      rw [List.intercalate_singleton, readScalars?, hfirst.read _ (ends_close rest), Option.bind_eq_bind, Option.bind_some]
      simp only [hcomma, hclose, Option.map_some]
    | @cons second item' texts items hsecond hothers =>
      simp only [List.length_cons] at hbound
      have hrest := ih (List.cons_ne_nil _ _) (show (item' :: items).length ≤ bound by simp only [List.length_cons]; omega)
      have hcomma : ∀ more, afterSymbol? "," (',' :: more) = some more := fun more => afterSymbol?_self (firstToken?_comma more)
      have htext : [',', ' '].intercalate (text :: second :: texts) ++ ')' :: rest =
          text ++ ',' :: ' ' :: ([',', ' '].intercalate (second :: texts) ++ ')' :: rest) := by
        simp [List.intercalate_cons_cons]
      rw [htext, readScalars?, hfirst.read _ (ends_comma _), Option.bind_eq_bind, Option.bind_some]
      simp only [hcomma, readScalars?_blank hrest, Option.bind_eq_bind, Option.bind_some]

/-! ### Operands -/

theorem ReadsAs.readOperand? {text : List Char} {value : Value} (h : ReadsAs text value) {rest : List Char}
    (hrest : Ends rest) : readOperand? (text ++ rest) = some (value, rest) := by
  rw [Sql.readOperand?, h.notOpen rest hrest]
  exact h.read rest hrest

theorem exists_ends_intercalate (text : List Char) (texts : List (List Char)) (rest : List Char) :
    ∃ after, Ends after ∧ [',', ' '].intercalate (text :: texts) ++ ')' :: rest = text ++ after := by
  cases texts with
  | nil => exact ⟨_, ends_close rest, by rw [List.intercalate_singleton]⟩
  | cons second texts => exact ⟨_, ends_comma _, by simp [List.intercalate_cons_cons]; rfl⟩

theorem length_le_intercalate (texts : List (List Char)) : texts.length ≤ ([',', ' '].intercalate texts).length + 1 := by
  induction texts with
  | nil => exact Nat.zero_le _
  | cons text texts ih =>
    cases texts with
    | nil => simp
    | cons second texts =>
      simp only [List.intercalate_cons_cons, List.length_append, List.length_cons] at ih ⊢
      omega

theorem readOperand?_list {items : List Value} {texts : List (List Char)} (h : List.Forall₂ ReadsAs texts items)
    (rest : List Char) :
    readOperand? ('(' :: ([',', ' '].intercalate texts ++ ')' :: rest)) = some (.list items, rest) := by
  rw [readOperand?, afterSymbol?_self (firstToken?_open _)]
  cases h with
  | nil =>
    have hclose : afterSymbol? ")" ([',', ' '].intercalate [] ++ ')' :: rest) = some rest :=
      afterSymbol?_self (firstToken?_close rest)
    simp only [hclose]
  | @cons text item texts items hfirst hothers =>
    obtain ⟨after, hends, htext⟩ := exists_ends_intercalate text texts rest
    have hclose := hfirst.notClose after hends
    rw [← htext] at hclose
    have hbound : (item :: items).length ≤ ([',', ' '].intercalate (text :: texts) ++ ')' :: rest).length + 1 := by
      have hlength := length_le_intercalate (text :: texts)
      rw [← (List.Forall₂.cons hfirst hothers).length_eq, List.length_append]
      omega
    simp only [hclose, readScalars?_intercalate (.cons hfirst hothers) (List.cons_ne_nil _ _) hbound, Option.map_some]

end Sql

end ObjectStore
