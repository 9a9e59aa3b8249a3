import ObjectStore.Proofs.Number.Literal
import ObjectStore.Sql.Expr
import ObjectStore.Sql.Token

/-!
# Scanning written texts

What the scanner reads from a text does not depend on where the text stands. A piece of a statement is scanned into its tokens whatever follows it, as long as the character after it does not go on with its last token: `Lexes stop text tokens` says so for the characters that satisfy `stop`, and pieces that fit together are scanned one after the other. Words, numbers and string literals of every content are pieces.
-/

namespace ObjectStore.Sql

/-- The tokens of scanned words, without their places. -/
def bareTokens (scanned : Option (List Placed)) : Option (List Token) :=
  scanned.map fun placed => placed.map (·.token)

/-- The tokens that the scanner reads from here on. -/
def lex (mode : Scan) (cs : List Char) : Option (List Token) :=
  bareTokens (scanFrom mode 0 0 cs)

private theorem bareTokens_append (found : List Token) (began : Nat) (scanned : Option (List Placed)) :
    bareTokens (scanned.map (found.map (⟨·, began⟩) ++ ·)) = (bareTokens scanned).map (found ++ ·) := by
  cases scanned <;> simp [bareTokens, Function.comp_def]

private theorem scanFrom_congr (cs : List Char) (mode : Scan) (began place began' place' : Nat) :
    bareTokens (scanFrom mode began place cs) = bareTokens (scanFrom mode began' place' cs) := by
  induction cs generalizing mode began place began' place' with
  | nil =>
    cases mode <;> rfl
  | cons c rest ih =>
    -- a token that ends here is the same at every place, and so are those after it
    have hmap : ∀ (found : List Token) (mode : Scan) (a b a' b' d d' : Nat),
        bareTokens ((scanFrom mode a b rest).map (found.map (⟨·, d⟩) ++ ·)) =
          bareTokens ((scanFrom mode a' b' rest).map (found.map (⟨·, d'⟩) ++ ·)) := by
      intro found mode a b a' b' d d'
      rw [bareTokens_append, bareTokens_append, ih mode a b a' b']
    unfold scanFrom
    cases hnext : mode.continue? c with
    | some next => exact ih ..
    | none =>
      cases mode with
      | symbol first =>
        simp only
        cases pairSymbol? first c with
        | some pair => exact hmap [.symbol pair] ..
        | none => exact hmap [.symbol (String.singleton first)] ..
      | between => exact hmap [] ..
      | word read => exact hmap [.word (String.ofList read.reverse)] ..
      | number read => exact hmap [.number (String.ofList read.reverse)] ..
      | quote read => exact hmap [.text (String.ofList read.reverse)] ..
      | text read => rfl
      | failed => rfl

theorem tokens?_map (sql : String) :
    (tokens? sql).map (fun placed => placed.map (·.token)) = lex .between sql.toList := rfl

/-! ### Steps of the scanner -/

theorem lex_continue {mode next : Scan} {c : Char} (h : mode.continue? c = some next) (rest : List Char) :
    lex mode (c :: rest) = lex next rest := by
  rw [lex]
  unfold scanFrom
  simp only [h]
  exact scanFrom_congr ..

private theorem lex_emit (found : Option Token) (mode : Scan) (began a b : Nat) (rest : List Char) :
    bareTokens ((scanFrom mode a b rest).map (found.toList.map (⟨·, began⟩) ++ ·)) =
      (lex mode rest).map (found.toList ++ ·) := by
  rw [bareTokens_append, lex, scanFrom_congr rest mode a b 0 0]

theorem lex_start (c : Char) (rest : List Char) : lex .between (c :: rest) = lex (.start c) rest := by
  rw [lex]
  unfold scanFrom
  apply (lex_emit none ..).trans
  cases lex (.start c) rest <;> rfl

/-- A token that the next character does not continue ends before it. -/
theorem lex_end {mode : Scan} {token : Token} (hfinish : mode.finish? = some (some token)) {rest : List Char}
    (hstop : ∀ c ∈ rest.head?, mode.continue? c = none) (hpair : ∀ first, mode = .symbol first →
      ∀ c ∈ rest.head?, pairSymbol? first c = none) :
    lex mode rest = (lex .between rest).map (token :: ·) := by
  cases rest with
  | nil =>
    rw [lex, lex, scanFrom, scanFrom, hfinish]
    rfl
  | cons c rest =>
    rw [lex_start, lex]
    unfold scanFrom
    simp only [hstop c rfl]
    cases mode with
    | symbol first =>
      cases hfinish
      simp only [hpair first rfl c rfl]
      exact lex_emit (some _) ..
    | between => cases hfinish
    | text read => cases hfinish
    | failed => cases hfinish
    | word read => cases hfinish; exact lex_emit (some _) ..
    | number read => cases hfinish; exact lex_emit (some _) ..
    | quote read => cases hfinish; exact lex_emit (some _) ..

theorem lex_pair {first second : Char} {pair : String} (h : pairSymbol? first second = some pair) (rest : List Char) :
    lex (.symbol first) (second :: rest) = (lex .between rest).map (.symbol pair :: ·) := by
  rw [lex]
  unfold scanFrom
  simp only [Scan.continue?, h]
  exact lex_emit (some _) ..

/-! ### Pieces of text -/

/-- The text is scanned into the tokens and then the scanner starts afresh, if the next character satisfies `stop`. -/
def Lexes (stop : Char → Prop) (cs : List Char) (tokens : List Token) : Prop :=
  ∀ rest : List Char, (∀ c ∈ rest.head?, stop c) → lex .between (cs ++ rest) = (lex .between rest).map (tokens ++ ·)

/-- What comes after a piece that ends with any token: a blank, a comma or a closing parenthesis. -/
def Separates (c : Char) : Prop := c = ' ' ∨ c = ',' ∨ c = ')'

namespace Lexes

variable {stop stop' : Char → Prop} {a b : List Char} {s t : List Token}

theorem mono (h : Lexes stop a s) (himp : ∀ c, stop' c → stop c) : Lexes stop' a s :=
  fun rest hrest => h rest fun c hc => himp c (hrest c hc)

theorem nil : Lexes stop [] [] := by
  intro rest _
  rw [List.nil_append]
  cases lex .between rest <;> rfl

theorem append (ha : Lexes stop a s) (hb : Lexes stop' b t) (hne : b ≠ []) (hstart : ∀ c ∈ b.head?, stop c) :
    Lexes stop' (a ++ b) (s ++ t) := by
  intro rest hrest
  have hhead : ∀ c ∈ (b ++ rest).head?, stop c := by
    rw [List.head?_append_of_ne_nil _ hne]
    exact hstart
  rw [List.append_assoc, ha _ hhead, hb rest hrest, Option.map_map]
  congr 1
  funext tokens
  exact (List.append_assoc ..).symm

/-- A piece that ends by itself can be followed by anything. -/
theorem append_free (ha : Lexes (fun _ => True) a s) (hb : Lexes stop b t) : Lexes stop (a ++ b) (s ++ t) := by
  intro rest hrest
  rw [List.append_assoc, ha _ (fun _ _ => trivial), hb rest hrest, Option.map_map]
  congr 1
  funext tokens
  exact (List.append_assoc ..).symm

/-- A blank ends whatever stands before it. -/
theorem append_spaced (ha : Lexes Separates a s) (hb : Lexes stop (' ' :: b) t) : Lexes stop (a ++ ' ' :: b) (s ++ t) :=
  append ha hb (List.cons_ne_nil _ _) fun c hc => by
    cases hc
    exact .inl rfl

theorem blank : Lexes (fun _ => True) [' '] [] := by
  intro rest _
  rw [List.singleton_append, lex_start]
  cases h : lex .between rest <;> exact h

theorem append_blank (ha : Lexes Separates a s) : Lexes (fun _ => True) (a ++ [' ']) s := by
  have h := append_spaced ha blank
  rwa [List.append_nil] at h

theorem eq_some (h : Lexes stop a s) : lex .between a = some s := by
  have hall := h [] (fun c hc => absurd hc (by simp))
  rwa [List.append_nil, show lex .between [] = some [] from rfl, Option.map_some, List.append_nil] at hall

end Lexes

/-! ### Characters that spell a token -/

/-- What the scanner is in the middle of after characters that all go on with the same token. -/
def Scan.run : Scan → List Char → Option Scan
  | mode, [] => some mode
  | mode, c :: rest => (mode.continue? c).bind fun next => next.run rest

theorem Scan.run_cons {mode next : Scan} {c : Char} (h : mode.continue? c = some next) (rest : List Char) :
    mode.run (c :: rest) = next.run rest := by
  rw [run, h, Option.bind_some]

theorem Scan.run_append {mode next : Scan} {a : List Char} (h : mode.run a = some next) (b : List Char) :
    mode.run (a ++ b) = next.run b := by
  induction a generalizing mode with
  | nil =>
    cases h
    rfl
  | cons c a ih =>
    obtain ⟨middle, hc, hrest⟩ := Option.bind_eq_some_iff.1 h
    rw [List.cons_append, run_cons hc, ih hrest]

theorem lex_run {mode next : Scan} {cs : List Char} (h : mode.run cs = some next) (rest : List Char) :
    lex mode (cs ++ rest) = lex next rest := by
  induction cs generalizing mode with
  | nil =>
    cases h
    rfl
  | cons c cs ih =>
    obtain ⟨middle, hc, hrest⟩ := Option.bind_eq_some_iff.1 h
    rw [List.cons_append, lex_continue hc, ih hrest]

/-- The scanner starts the token at the character, is at its end after the others, and goes on with it at no character that satisfies `stop`. -/
structure Spells (stop : Char → Prop) (first : Char) (others : List Char) (token : Token) (mode : Scan) : Prop where
  run : (Scan.start first).run others = some mode
  finish : mode.finish? = some (some token)
  ends : ∀ c, stop c → mode.continue? c = none
  single : ∀ start, mode = .symbol start → ∀ c, stop c → pairSymbol? start c = none

theorem Spells.lexes {stop : Char → Prop} {first : Char} {others : List Char} {token : Token} {mode : Scan}
    (h : Spells stop first others token mode) : Lexes stop (first :: others) [token] := by
  intro rest hrest
  rw [List.cons_append, lex_start, lex_run h.run]
  exact lex_end h.finish (fun c hc => h.ends c (hrest c hc)) fun start hsymbol c hc => h.single start hsymbol c (hrest c hc)

/-! ### Tokens as pieces -/

private theorem not_blank {c : Char} (h : 32 < c.toNat) : isBlank c = false := by
  have hne : c ≠ ' ' := by
    rintro rfl
    exact absurd h (by decide)
  simp only [isBlank, Bool.or_eq_false_iff, beq_eq_false_iff_ne, Bool.and_eq_false_iff, decide_eq_false_iff_not]
  exact ⟨hne, .inr (by omega)⟩

private theorem isAlpha_iff (c : Char) :
    c.isAlpha = true ↔ (65 ≤ c.toNat ∧ c.toNat ≤ 90) ∨ (97 ≤ c.toNat ∧ c.toNat ≤ 122) := by
  change (decide ('A'.val ≤ c.val ∧ c.val ≤ 'Z'.val) || (decide ('a'.val ≤ c.val) && decide (c.val ≤ 'z'.val))) = true ↔ _
  simp only [Bool.or_eq_true, Bool.and_eq_true, decide_eq_true_eq, UInt32.le_iff_toNat_le]
  exact Iff.rfl

private theorem toNat_of_isIdentifierStart {c : Char} (h : Text.isIdentifierStart c = true) : 32 < c.toNat := by
  rw [Text.isIdentifierStart, Bool.or_eq_true, isAlpha_iff, beq_iff_eq] at h
  rcases h with h | rfl
  · omega
  · decide

theorem run_word {cs : List Char} (h : ∀ c ∈ cs, isWordPart c = true) (read : List Char) :
    (Scan.word read).run cs = some (.word (cs.reverse ++ read)) := by
  induction cs generalizing read with
  | nil => rfl
  | cons c cs ih =>
    have hc : Scan.continue? c (.word read) = some (.word (c :: read)) := by
      rw [Scan.continue?, if_pos (h c List.mem_cons_self)]
    rw [Scan.run_cons hc, ih (fun d hd => h d (List.mem_cons_of_mem _ hd)), List.reverse_cons, List.append_assoc,
      List.singleton_append]

/-- An identifier is one word. -/
theorem spells_word {word : String} (h : Text.isIdentifier word = true) : ∃ first others mode,
    word.toList = first :: others ∧ Spells (fun c => isWordPart c = false) first others (.word word) mode := by
  have hchars : Text.isIdentifierChars word.toList = true := h
  have hword : String.ofList word.toList = word := String.ofList_toList
  cases hlist : word.toList with
  | nil =>
    rw [hlist] at hchars
    exact Bool.noConfusion hchars
  | cons c cs =>
    rw [hlist] at hchars hword
    rw [Text.isIdentifierChars, Bool.and_eq_true, List.all_eq_true] at hchars
    obtain ⟨hstart, hparts⟩ := hchars
    have hfirst : Scan.start c = .word [c] := by
      rw [Scan.start, not_blank (toNat_of_isIdentifierStart hstart), isWordStart, hstart]
      rfl
    refine ⟨c, cs, .word (cs.reverse ++ [c]), rfl, ?_, ?_, fun d hd => ?_, fun start hsymbol => by cases hsymbol⟩
    · rw [hfirst, run_word fun d hd => by rw [isWordPart, hparts d hd]; rfl]
    · rw [Scan.finish?, List.reverse_append, List.reverse_reverse, List.reverse_singleton, List.singleton_append, hword]
    · rw [Scan.continue?, hd]
      rfl

theorem lexes_word (word : String) (h : Text.isIdentifier word = true) :
    Lexes (fun c => isWordPart c = false) word.toList [.word word] := by
  obtain ⟨first, others, mode, hword, hspells⟩ := spells_word h
  rw [hword]
  exact hspells.lexes

/-- Whether characters go on with a number of which the characters `read`, in reverse, have been read. -/
def continuesNumeral : List Char → List Char → Bool
  | _, [] => true
  | read, c :: rest => continuesNumber read c && continuesNumeral (c :: read) rest

theorem continuesNumeral_append (read a b : List Char) :
    continuesNumeral read (a ++ b) = (continuesNumeral read a && continuesNumeral (a.reverse ++ read) b) := by
  induction a generalizing read with
  | nil => rfl
  | cons c a ih =>
    rw [List.cons_append, continuesNumeral, continuesNumeral, ih, List.reverse_cons, List.append_assoc,
      List.singleton_append, Bool.and_assoc]

theorem continuesNumeral_of_digits (cs : List Char) (h : ∀ c ∈ cs, c.isDigit = true ∨ c = '.') (read : List Char) :
    continuesNumeral read cs = true := by
  induction cs generalizing read with
  | nil => rfl
  | cons c cs ih =>
    rw [continuesNumeral, ih (fun d hd => h d (List.mem_cons_of_mem _ hd)), Bool.and_true, continuesNumber]
    rcases h c List.mem_cons_self with hdigit | rfl
    · rw [hdigit]
      rfl
    · rfl

theorem run_number {cs : List Char} {read : List Char} (h : continuesNumeral read cs = true) :
    (Scan.number read).run cs = some (.number (cs.reverse ++ read)) := by
  induction cs generalizing read with
  | nil => rfl
  | cons c cs ih =>
    rw [continuesNumeral, Bool.and_eq_true] at h
    have hc : Scan.continue? c (.number read) = some (.number (c :: read)) := by
      rw [Scan.continue?, if_pos h.1]
    rw [Scan.run_cons hc, ih h.2, List.reverse_cons, List.append_assoc, List.singleton_append]

/-- Characters that start with a digit and go on as a number. -/
def isNumeral : List Char → Bool
  | [] => false
  | c :: rest => c.isDigit && continuesNumeral [c] rest

theorem spells_number {cs : List Char} (h : isNumeral cs = true) : ∃ first others mode,
    cs = first :: others ∧ Spells Separates first others (.number (String.ofList cs)) mode := by
  cases cs with
  | nil => exact Bool.noConfusion h
  | cons c cs =>
    rw [isNumeral, Bool.and_eq_true] at h
    obtain ⟨hdigit, hcontinues⟩ := h
    have hbounds : 48 ≤ c.toNat ∧ c.toNat ≤ 57 := by
      simp only [Char.isDigit, Bool.and_eq_true, decide_eq_true_eq, UInt32.le_iff_toNat_le] at hdigit
      exact hdigit
    have hword : isWordStart c = false := by
      have halpha : c.isAlpha = false := by
        rw [← Bool.not_eq_true, isAlpha_iff]
        omega
      have hunderscore : c ≠ '_' := by
        rintro rfl
        exact absurd hdigit (by decide)
      rw [isWordStart, Text.isIdentifierStart, halpha, beq_false_of_ne hunderscore, Bool.or_self, Bool.false_or,
        decide_eq_false_iff_not]
      omega
    have hfirst : Scan.start c = .number [c] := by
      rw [Scan.start, not_blank (by omega), hword, hdigit]
      rfl
    refine ⟨c, cs, .number (cs.reverse ++ [c]), rfl, ?_, ?_, fun d hd => ?_, fun start hsymbol => by cases hsymbol⟩
    · rw [hfirst, run_number hcontinues]
    · rw [Scan.finish?, List.reverse_append, List.reverse_reverse, List.reverse_singleton, List.singleton_append]
    · rw [Scan.continue?, if_neg]
      rcases hd with rfl | rfl | rfl <;> simp [continuesNumber]

theorem lexes_number {cs : List Char} (h : isNumeral cs = true) : Lexes Separates cs [.number (String.ofList cs)] := by
  obtain ⟨first, others, mode, hcs, hspells⟩ := spells_number h
  rw [hcs] at hspells ⊢
  exact hspells.lexes

/-- The characters between the quotes of a string literal. -/
def doubled (cs : List Char) : List Char :=
  cs.flatMap fun c => if c == '\'' then [c, c] else [c]

theorem run_text (cs read : List Char) : (Scan.text read).run (doubled cs) = some (.text (cs.reverse ++ read)) := by
  induction cs generalizing read with
  | nil => rfl
  | cons c cs ih =>
    have hsplit : doubled (c :: cs) = (if c == '\'' then [c, c] else [c]) ++ doubled cs := rfl
    rw [hsplit, List.reverse_cons, List.append_assoc, List.singleton_append]
    by_cases hquote : c = '\''
    · subst hquote
      have hopen : Scan.continue? '\'' (.text read) = some (.quote read) := rfl
      have hclose : Scan.continue? '\'' (.quote read) = some (.text ('\'' :: read)) := rfl
      rw [if_pos (beq_self_eq_true _), List.cons_append, Scan.run_cons hopen, List.singleton_append, Scan.run_cons hclose,
        ih]
    · have hplain : Scan.continue? c (.text read) = some (.text (c :: read)) := by
        rw [Scan.continue?, if_neg (by simpa using hquote)]
      rw [if_neg (by simpa using hquote), List.singleton_append, Scan.run_cons hplain, ih]

theorem quotedText_toList (s : String) : (quotedText s).toList = '\'' :: (doubled s.toList ++ ['\'']) := by
  have hquote : "'".toList = ['\''] := rfl
  rw [quotedText, String.toList_append, String.toList_append, hquote, String.toList_ofList]
  rfl

/-- A string literal is one token, whatever it holds. -/
theorem spells_quotedText (s : String) :
    Spells (· ≠ '\'') '\'' (doubled s.toList ++ ['\'']) (.text s) (.quote s.toList.reverse) where
  run := by
    have hopen : Scan.start '\'' = .text [] := rfl
    rw [hopen, Scan.run_append (run_text s.toList []), List.append_nil]
    rfl
  finish := by rw [Scan.finish?, List.reverse_reverse, String.ofList_toList]
  ends c hc := by rw [Scan.continue?, if_neg (by simpa using hc)]
  single start hsymbol := by cases hsymbol

theorem lexes_quotedText (s : String) : Lexes (· ≠ '\'') (quotedText s).toList [.text s] := by
  rw [quotedText_toList]
  exact (spells_quotedText s).lexes

/-- A symbol that starts no longer one. -/
theorem spells_symbol {c : Char} (hstart : Scan.start c = .symbol c) (hsingle : ∀ d, pairSymbol? c d = none) :
    Spells (fun _ => True) c [] (.symbol (String.singleton c)) (.symbol c) where
  run := by rw [hstart, Scan.run]
  finish := rfl
  ends _ _ := rfl
  single start hsymbol d _ := by
    cases hsymbol
    exact hsingle d

theorem lexes_symbol {c : Char} (hstart : Scan.start c = .symbol c) (hsingle : ∀ d, pairSymbol? c d = none) :
    Lexes (fun _ => True) [c] [.symbol (String.singleton c)] :=
  (spells_symbol hstart hsingle).lexes

end ObjectStore.Sql
