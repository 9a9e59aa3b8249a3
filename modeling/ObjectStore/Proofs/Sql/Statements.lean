import ObjectStore.Proofs.Sql.Parsing

/-!
# Reading statements back

A statement is written clause after clause, each of which starts with a keyword of its own. The text of a selection, an insertion, an update or a deletion is scanned into the tokens of its clauses, and each reader takes its clause off these tokens and leaves those of the next. The names of tables and columns only have to be identifiers, for a word where a name is due is a name.
-/

namespace ObjectStore.Sql

/-! ### Tokens of clauses -/

namespace Join

def tokens (join : Join) : Tokens :=
  .word "LEFT" :: .word "JOIN" :: .word join.table ::
    ((if join.name == join.table then [] else [.word "AS", .word join.name]) ++ .word "ON" :: join.on.tokens)

def normal (join : Join) : Join := { join with on := join.on.normal }

structure Readable (join : Join) : Prop where
  table : Text.isIdentifier join.table = true
  name : Text.isIdentifier join.name = true
  on : Phrase .disjoined join.on

end Join

namespace OrderTerm

def directionTokens : SortDirection → Tokens
  | .ascending => [.word "ASC"]
  | .descending => [.word "DESC"]

def nullsTokens : Option NullsOrder → Tokens
  | some .first => [.word "NULLS", .word "FIRST"]
  | some .last => [.word "NULLS", .word "LAST"]
  | none => []

def tokens (term : OrderTerm) : Tokens :=
  term.expr.tokens ++ (directionTokens term.direction ++ nullsTokens term.nulls)

def normal (term : OrderTerm) : OrderTerm := { term with expr := term.expr.normal }

end OrderTerm

def integerTokens (n : Int64) : Tokens :=
  signedTokens (n.toInt < 0) (Nat.toDigits 10 n.toInt.natAbs)

def Paging.tokens (paging : Paging) : Tokens :=
  .word "LIMIT" :: (integerTokens paging.limit ++
    (match paging.offset with
      | some offset => .word "OFFSET" :: integerTokens offset
      | none => []))

def filterTokens : Option Expr → Tokens
  | some filter => .word "WHERE" :: filter.tokens
  | none => []

def pagingTokens : Option Paging → Tokens
  | some paging => paging.tokens
  | none => []

/-- Parts between commas. -/
def listTokens (parts : List Tokens) : Tokens := [.symbol ","].intercalate parts

namespace Source

def tokens (source : Source) : Tokens :=
  .word "FROM" :: .word source.table :: source.joins.flatMap Join.tokens

def normal (source : Source) : Source := { source with joins := source.joins.map Join.normal }

end Source

namespace Select

def orderTokens : List OrderTerm → Tokens
  | [] => []
  | terms => .word "ORDER" :: .word "BY" :: listTokens (terms.map OrderTerm.tokens)

def sourceTokens : Option Source → Tokens
  | some source => source.tokens
  | none => []

def tokens (s : Select) : Tokens :=
  .word "SELECT" :: (listTokens (s.items.map Expr.tokens) ++ (sourceTokens s.source ++
    (filterTokens s.filter ++ (orderTokens s.order ++ pagingTokens s.paging))))

/-- The selection as it can be read. -/
def normal (s : Select) : Select where
  items := s.items.map Expr.normal
  source := s.source.map Source.normal
  filter := s.filter.map Expr.normal
  order := s.order.map OrderTerm.normal
  paging := s.paging

/-- A selection whose names are identifiers and whose expressions are phrases. -/
structure Readable (s : Select) : Prop where
  items_ne_nil : s.items ≠ []
  items : ∀ item ∈ s.items, Phrase .disjoined item
  table : ∀ source ∈ s.source, Text.isIdentifier source.table = true
  joins : ∀ source ∈ s.source, ∀ join ∈ source.joins, join.Readable
  filter : ∀ filter ∈ s.filter, Phrase .disjoined filter
  order : ∀ term ∈ s.order, Phrase .disjoined term.expr

end Select

/-! ### Texts of clauses -/

theorem lexes_words (words : List String) (h : ∀ word ∈ words, Text.isIdentifier word = true) :
    Lexes (fun _ => True) (words.flatMap fun word => word.toList ++ [' ']) (words.map .word) := by
  induction words with
  | nil => exact .nil
  | cons word words ih =>
    rw [List.flatMap_cons, List.map_cons]
    exact (lexes_name word (h word List.mem_cons_self)).append_blank.append_free
      (ih fun other hother => h other (List.mem_cons_of_mem _ hother))

theorem lexes_integer (n : Int64) : Lexes Separates (integerText n).toList (integerTokens n) := by
  have h := lexes_signed (n.toInt < 0) (isNumeral_toDigits n.toInt.natAbs)
  simpa [integerText, integerTokens, Number.writeInt] using h

/-- A text that is empty or starts with a blank, which ends whatever stands before it. -/
structure IsClause (cs : List Char) (tokens : Tokens) : Prop where
  lexes : Lexes Separates cs tokens
  blank : ∀ c ∈ cs.head?, c = ' '

theorem Lexes.append_clause {a b : List Char} {s t : Tokens} (ha : Lexes Separates a s) (hb : IsClause b t) :
    Lexes Separates (a ++ b) (s ++ t) := by
  cases b with
  | nil =>
    intro rest hrest
    have hnone := hb.lexes rest hrest
    rw [List.nil_append] at hnone
    rw [List.append_nil, ha rest hrest]
    nth_rewrite 1 [hnone]
    rw [Option.map_map]
    congr 1
    funext tokens
    exact (List.append_assoc ..).symm
  | cons c b =>
    obtain rfl := hb.blank c rfl
    exact ha.append_spaced hb.lexes

namespace IsClause

theorem nil : IsClause [] [] := ⟨.nil, fun c hc => absurd hc (by simp)⟩

theorem of_spaced {cs : List Char} {tokens : Tokens} (h : Lexes Separates (' ' :: cs) tokens) : IsClause (' ' :: cs) tokens :=
  ⟨h, fun c hc => by
    cases hc
    rfl⟩

theorem append {a b : List Char} {s t : Tokens} (ha : IsClause a s) (hb : IsClause b t) : IsClause (a ++ b) (s ++ t) where
  lexes := ha.lexes.append_clause hb
  blank := by
    cases a with
    | nil => exact hb.blank
    | cons c a => exact ha.blank

theorem flatMap {α : Type} (text : α → List Char) (tokens : α → Tokens) (parts : List α)
    (h : ∀ part ∈ parts, IsClause (text part) (tokens part)) : IsClause (parts.flatMap text) (parts.flatMap tokens) := by
  induction parts with
  | nil => exact nil
  | cons part parts ih =>
    rw [List.flatMap_cons, List.flatMap_cons]
    exact (h part List.mem_cons_self).append (ih fun other hother => h other (List.mem_cons_of_mem _ hother))

end IsClause

theorem Join.isClause {join : Join} (h : join.Readable) : IsClause join.render.toList join.tokens := by
  have hleft : Lexes (fun _ => True) (' ' :: "LEFT JOIN ".toList) [.word "LEFT", .word "JOIN"] :=
    Lexes.blank.append_free (lexes_words ["LEFT", "JOIN"] (by decide))
  have hon := (lexes_keyword "ON" (by decide)).append_free h.on.lexes
  rw [render, tokens]
  split
  · have hall := hleft.append_free ((lexes_name join.table h.table).append_spaced hon)
    simpa using IsClause.of_spaced hall
  · have has := (lexes_keyword "AS" (by decide)).append_free ((lexes_name join.name h.name).append_spaced hon)
    have hall := hleft.append_free ((lexes_name join.table h.table).append_spaced has)
    simpa using IsClause.of_spaced hall

theorem OrderTerm.lexes {term : OrderTerm} (h : Phrase .disjoined term.expr) :
    Lexes Separates term.render.toList term.tokens := by
  have hspaced : ∀ word, Text.isIdentifier word = true → IsClause (' ' :: word.toList) [.word word] :=
    fun word hword => .of_spaced (Lexes.append_free Lexes.blank (lexes_name word hword))
  have hnulls : ∀ word, Text.isIdentifier word = true →
      IsClause (' ' :: ("NULLS ".toList ++ word.toList)) [.word "NULLS", .word word] := fun word hword =>
    .of_spaced ((lexes_keyword "NULLS" (by decide)).append_free (lexes_name word hword))
  have hdirection : IsClause
      (match term.direction with
        | .ascending => " ASC"
        | .descending => " DESC").toList (directionTokens term.direction) := by
    cases term.direction with
    | ascending => exact hspaced "ASC" (by decide)
    | descending => exact hspaced "DESC" (by decide)
  have horder : IsClause
      (match term.nulls with
        | some .first => " NULLS FIRST"
        | some .last => " NULLS LAST"
        | none => "").toList (nullsTokens term.nulls) := by
    cases term.nulls with
    | none => exact .nil
    | some nulls =>
      cases nulls with
      | first => exact hnulls "FIRST" (by decide)
      | last => exact hnulls "LAST" (by decide)
  rw [render, tokens, String.toList_append, String.toList_append, List.append_assoc]
  exact h.lexes.append_clause (hdirection.append horder)

theorem isClause_filter {filter : Option Expr} (h : ∀ e ∈ filter, Phrase .disjoined e) :
    IsClause (renderFilter filter).toList (filterTokens filter) := by
  cases filter with
  | none => exact .nil
  | some e =>
    have hall := (lexes_keyword "WHERE" (by decide)).append_free (h e rfl).lexes
    simpa [renderFilter, filterTokens] using IsClause.of_spaced hall

theorem Paging.isClause (paging : Paging) : IsClause paging.render.toList paging.tokens := by
  have hcount : ∀ word, Text.isIdentifier word = true → ∀ n : Int64,
      IsClause (' ' :: (word.toList ++ [' ']) ++ (integerText n).toList) (.word word :: integerTokens n) :=
    fun word hword n => .of_spaced ((lexes_keyword word hword).append_free (lexes_integer n))
  have hlimit := hcount "LIMIT" (by decide) paging.limit
  rw [render, tokens]
  cases paging.offset with
  | none => simpa using hlimit
  | some offset => simpa using hlimit.append (hcount "OFFSET" (by decide) offset)

private theorem intercalate_nil_left {α : Type} (parts : List (List α)) : [].intercalate parts = parts.flatten := by
  induction parts with
  | nil => rfl
  | cons first others ih =>
    cases others with
    | nil => rw [List.intercalate_singleton, List.flatten_singleton]
    | cons second others =>
      rw [List.intercalate_cons_cons, ih, List.append_nil]
      rfl

namespace Select

theorem isClause_source {source : Option Source} (htable : ∀ s ∈ source, Text.isIdentifier s.table = true)
    (hjoins : ∀ s ∈ source, ∀ join ∈ s.joins, join.Readable) :
    IsClause (renderSource source).toList (sourceTokens source) := by
  cases source with
  | none => exact .nil
  | some source =>
    have htext : (renderSource (some source)).toList =
        ' ' :: (("FROM".toList ++ [' ']) ++ source.table.toList) ++ source.joins.flatMap fun join => join.render.toList := by
      have hflat := intercalate_nil_left (source.joins.map fun join => join.render.toList)
      rw [← List.flatMap_def] at hflat
      simp [renderSource, Function.comp_def, hflat]
    have hfrom := (lexes_keyword "FROM" (by decide)).append_free (lexes_name source.table (htable source rfl))
    rw [htext]
    exact (IsClause.of_spaced hfrom).append (.flatMap _ _ _ fun join hjoin => join.isClause (hjoins source rfl join hjoin))

theorem isClause_order {terms : List OrderTerm} (h : ∀ term ∈ terms, Phrase .disjoined term.expr) :
    IsClause (renderOrder terms).toList (orderTokens terms) := by
  cases terms with
  | nil => exact .nil
  | cons first others =>
    have horder : Lexes (fun _ => True) (' ' :: "ORDER BY ".toList) [.word "ORDER", .word "BY"] :=
      Lexes.blank.append_free (lexes_words ["ORDER", "BY"] (by decide))
    have hterms := lexes_commaList OrderTerm.render OrderTerm.tokens (first :: others)
      fun term hterm => OrderTerm.lexes (h term hterm)
    simpa [renderOrder, orderTokens, listTokens] using IsClause.of_spaced (horder.append_free hterms)

theorem lexes {s : Select} (h : s.Readable) : Lexes Separates s.render.toList s.tokens := by
  have hselect : Lexes (fun _ => True) "SELECT ".toList [.word "SELECT"] := lexes_words ["SELECT"] (by decide)
  have hitems := lexes_commaList Expr.render Expr.tokens s.items fun item hitem => (h.items item hitem).lexes
  have hpaging : IsClause
      (match s.paging with
        | some paging => paging.render
        | none => "").toList (pagingTokens s.paging) := by
    cases s.paging with
    | none => exact .nil
    | some paging => exact paging.isClause
  have hclauses := (isClause_source h.table h.joins).append
    ((isClause_filter h.filter).append ((isClause_order h.order).append hpaging))
  rw [render, tokens, Expr.renderAll_eq_map]
  simp only [String.toList_append, List.append_assoc]
  exact hselect.append_free (hitems.append_clause hclauses)

end Select

/-! ### Reading clauses -/

/-- The rest of the tokens is empty or starts with one of the words. -/
def Follows (words : List String) (rest : Tokens) : Prop :=
  ∀ token ∈ rest.head?, ∃ word ∈ words, token = .word word

namespace Follows

variable {words : List String} {rest : Tokens}

theorem nil : Follows words [] := fun token htoken => absurd htoken (by simp)

theorem cons {word : String} (h : word ∈ words) (rest : Tokens) : Follows words (.word word :: rest) := by
  intro token htoken
  cases htoken
  exact ⟨word, h, rfl⟩

theorem mono {more : List String} (h : Follows words rest) (hsubset : words ⊆ more) : Follows more rest :=
  fun token htoken => (h token htoken).imp fun _ hword => ⟨hsubset hword.1, hword.2⟩

theorem ends {level : Level} (h : Follows words rest) (hwords : ∀ word ∈ words, level.ends (.word word) = true) :
    level.Ends rest := by
  intro token htoken
  obtain ⟨word, hword, rfl⟩ := h token htoken
  exact hwords word hword

theorem startsWith {text : String} (h : Follows words rest) (hwords : ∀ word ∈ words, Text.sameName word text = false) :
    startsWith text rest = false := by
  cases rest with
  | nil => rfl
  | cons token rest =>
    obtain ⟨word, hword, rfl⟩ := h token rfl
    have htext : (Token.word word).isWord text = false := hwords word hword
    rw [Sql.startsWith, keyword, htext, if_neg Bool.false_ne_true]
    rfl

end Follows

private theorem separated_succ {α : Type} (part : Reads α) (bound : Nat) (tokens : Tokens) :
    separated part (bound + 1) tokens = (part tokens).bind fun first =>
      match first.2 with
      | .symbol "," :: tokens => (separated part bound tokens).bind fun rest => some (first.1 :: rest.1, rest.2)
      | _ => some ([first.1], first.2) := rfl

/-- Parts between commas, each of which is read if what comes next satisfies `stop`, as a comma does. -/
theorem separated_list {α β : Type} {part : Reads α} {tokens : β → Tokens} {value : β → α} {stop : Tokens → Prop}
    (hcomma : ∀ rest, stop (.symbol "," :: rest)) {parts : List β} (hne : parts ≠ [])
    (hparts : ∀ p ∈ parts, ∀ rest, stop rest → part (tokens p ++ rest) = some (value p, rest)) {bound : Nat}
    (hbound : parts.length ≤ bound) {rest : Tokens} (hstop : stop rest) (hlast : ∀ tail, rest ≠ .symbol "," :: tail) :
    separated part bound (listTokens (parts.map tokens) ++ rest) = some (parts.map value, rest) := by
  induction parts generalizing bound with
  | nil => exact absurd rfl hne
  | cons first others ih =>
    obtain ⟨bound, rfl⟩ : ∃ n, bound = n + 1 := ⟨bound - 1, by rw [List.length_cons] at hbound; omega⟩
    have hfirst := hparts first List.mem_cons_self
    cases others with
    | nil =>
      rw [listTokens, List.map_singleton, List.intercalate_singleton, separated_succ, hfirst rest hstop, Option.bind_some]
      split
      · next tail heq => exact absurd heq (hlast tail)
      · rfl
    | cons second others =>
      have hmore := ih (List.cons_ne_nil _ _) (fun other hother => hparts other (List.mem_cons_of_mem _ hother))
        (Nat.le_of_succ_le_succ hbound)
      rw [listTokens, List.map_cons, List.map_cons, List.intercalate_cons_cons, List.append_assoc, List.append_assoc,
        List.singleton_append, separated_succ, hfirst _ (hcomma _), ← List.map_cons]
      change (separated part bound _).bind _ = _
      rw [← listTokens, hmore]
      rfl

private theorem length_le_listTokens (parts : List Tokens) : parts.length ≤ (listTokens parts).length + 1 := by
  induction parts with
  | nil => exact Nat.zero_le _
  | cons first others ih =>
    cases others with
    | nil => exact Nat.succ_le_succ (Nat.zero_le _)
    | cons second others =>
      rw [listTokens, List.intercalate_cons_cons, List.length_append, List.length_append, List.length_singleton,
        ← listTokens, List.length_cons]
      omega

theorem commaSeparated_list {α β : Type} {part : Reads α} {tokens : β → Tokens} {value : β → α} {stop : Tokens → Prop}
    (hcomma : ∀ rest, stop (.symbol "," :: rest)) {parts : List β} (hne : parts ≠ [])
    (hparts : ∀ p ∈ parts, ∀ rest, stop rest → part (tokens p ++ rest) = some (value p, rest)) {rest : Tokens}
    (hstop : stop rest) (hlast : ∀ tail, rest ≠ .symbol "," :: tail) :
    commaSeparated part (listTokens (parts.map tokens) ++ rest) = some (parts.map value, rest) := by
  refine separated_list hcomma hne hparts ?_ hstop hlast
  have h := length_le_listTokens (parts.map tokens)
  rw [List.length_map] at h
  rw [List.length_append]
  omega

theorem commaSeparated_closed {α β : Type} {part : Reads α} {tokens : β → Tokens} {value : β → α} {parts : List β}
    (hne : parts ≠ []) (hparts : ∀ p ∈ parts, ∀ rest, part (tokens p ++ rest) = some (value p, rest)) {rest : Tokens}
    (hlast : ∀ tail, rest ≠ .symbol "," :: tail) :
    commaSeparated part (listTokens (parts.map tokens) ++ rest) = some (parts.map value, rest) :=
  @commaSeparated_list α β part tokens value (fun _ => True) (fun _ => trivial) parts hne
    (fun p hp rest _ => hparts p hp rest) rest trivial hlast

theorem commaSeparated_exprs {exprs : List Expr} (hne : exprs ≠ []) (h : ∀ e ∈ exprs, Phrase .disjoined e)
    {rest : Tokens} (hends : Level.disjoined.Ends rest) (hlast : ∀ tail, rest ≠ .symbol "," :: tail) :
    commaSeparated Expr.read? (listTokens (exprs.map Expr.tokens) ++ rest) = some (exprs.map Expr.normal, rest) :=
  commaSeparated_list (.cons rfl) hne (fun e he _ hrest => Expr.read?_tokens (h e he) hrest) hends hlast

theorem Follows.ne_comma {words : List String} {rest : Tokens} (h : Follows words rest) (tail : Tokens) :
    rest ≠ .symbol "," :: tail := by
  rintro rfl
  obtain ⟨word, -, heq⟩ := h _ rfl
  cases heq

theorem readFilter_tokens {filter : Option Expr} (h : ∀ e ∈ filter, Phrase .disjoined e) {rest : Tokens}
    (hrest : Follows ["ORDER", "LIMIT"] rest) :
    readFilter (filterTokens filter ++ rest) = some (filter.map Expr.normal, rest) := by
  cases filter with
  | none =>
    rw [filterTokens, List.nil_append, readFilter, hrest.startsWith (by decide), if_neg Bool.false_ne_true]
    rfl
  | some e =>
    change (Expr.read? (e.tokens ++ rest)).bind _ = _
    rw [Expr.read?_tokens (h e rfl) (hrest.ends (by decide))]
    rfl

theorem readJoin_tokens {join : Join} (h : join.Readable) {rest : Tokens}
    (hrest : Follows ["LEFT", "WHERE", "ORDER", "LIMIT"] rest) :
    readJoin (join.tokens ++ rest) = some (join.normal, rest) := by
  have hends : Level.disjoined.Ends rest := hrest.ends (by decide)
  have hon := Expr.read?_tokens h.on hends
  obtain ⟨table, name, on⟩ := join
  rw [Join.tokens]
  split
  · next heq =>
    have hname : name = table := eq_of_beq heq
    subst hname
    change ((Expr.read? (on.tokens ++ rest)).bind fun p => some ((⟨name, name, p.1⟩ : Join), p.2)) = _
    rw [hon]
    rfl
  · change ((Expr.read? (on.tokens ++ rest)).bind fun p => some ((⟨table, name, p.1⟩ : Join), p.2)) = _
    rw [hon]
    rfl

theorem readJoins_tokens {joins : List Join} (h : ∀ join ∈ joins, join.Readable) {bound : Nat}
    (hbound : joins.length ≤ bound) {rest : Tokens} (hrest : Follows ["WHERE", "ORDER", "LIMIT"] rest) :
    readJoins bound (joins.flatMap Join.tokens ++ rest) = some (joins.map Join.normal, rest) := by
  induction joins generalizing bound with
  | nil =>
    cases bound with
    | zero => rfl
    | succ bound =>
      rw [List.flatMap_nil, List.nil_append, readJoins, hrest.startsWith (by decide), if_neg Bool.false_ne_true]
      rfl
  | cons join joins ih =>
    obtain ⟨bound, rfl⟩ : ∃ n, bound = n + 1 := ⟨bound - 1, by rw [List.length_cons] at hbound; omega⟩
    have hmore := ih (fun other hother => h other (List.mem_cons_of_mem _ hother)) (Nat.le_of_succ_le_succ hbound)
    have hfollows : Follows ["LEFT", "WHERE", "ORDER", "LIMIT"] (joins.flatMap Join.tokens ++ rest) := by
      cases joins with
      | nil => exact hrest.mono (List.subset_cons_self _ _)
      | cons next joins => exact .cons List.mem_cons_self _
    have hjoin := readJoin_tokens (h join List.mem_cons_self) hfollows
    rw [List.flatMap_cons, List.append_assoc]
    change (readJoin (join.tokens ++ (joins.flatMap Join.tokens ++ rest))).bind _ = _
    rw [hjoin]
    change (readJoins bound _).bind _ = _
    rw [hmore]
    rfl

theorem readSource_tokens {source : Option Source} (hjoins : ∀ s ∈ source, ∀ join ∈ s.joins, join.Readable)
    {rest : Tokens} (hrest : Follows ["WHERE", "ORDER", "LIMIT"] rest) :
    readSource (Select.sourceTokens source ++ rest) = some (source.map Source.normal, rest) := by
  cases source with
  | none =>
    rw [Select.sourceTokens, List.nil_append, readSource, hrest.startsWith (by decide), if_neg Bool.false_ne_true]
    rfl
  | some source =>
    have hbound : source.joins.length ≤ (source.joins.flatMap Join.tokens ++ rest).length := by
      have hpos : ∀ joins : List Join, joins.length ≤ (joins.flatMap Join.tokens).length := by
        intro joins
        induction joins with
        | nil => exact Nat.le_refl _
        | cons join joins ih =>
          rw [List.flatMap_cons, List.length_append, List.length_cons, Join.tokens, List.length_cons]
          omega
      rw [List.length_append]
      exact Nat.le_add_right_of_le (hpos _)
    change (readJoins (source.joins.flatMap Join.tokens ++ rest).length
      (source.joins.flatMap Join.tokens ++ rest)).bind _ = _
    rw [readJoins_tokens (hjoins source rfl) hbound hrest]
    rfl

theorem readNulls_tokens (nulls : Option NullsOrder) {rest : Tokens} (hrest : startsWith "NULLS" rest = false) :
    readNulls (OrderTerm.nullsTokens nulls ++ rest) = some (nulls, rest) := by
  cases nulls with
  | none => rw [OrderTerm.nullsTokens, List.nil_append, readNulls, hrest, if_neg Bool.false_ne_true]
  | some nulls => cases nulls <;> rfl

theorem readOrderTerm_tokens {term : OrderTerm} (h : Phrase .disjoined term.expr) {rest : Tokens}
    (hrest : startsWith "NULLS" rest = false) : readOrderTerm (term.tokens ++ rest) = some (term.normal, rest) := by
  have hdirection : ∀ tail, readDirection (OrderTerm.directionTokens term.direction ++ tail) = (term.direction, tail) := by
    intro tail
    cases term.direction <;> rfl
  have hends : ∀ tail, Level.disjoined.Ends (OrderTerm.directionTokens term.direction ++ tail) := by
    cases term.direction <;> exact .cons (by decide)
  rw [OrderTerm.tokens, readOrderTerm, List.append_assoc, List.append_assoc, Expr.read?_tokens h (hends _)]
  simp only [Option.bind_eq_bind, Option.bind_some, hdirection, readNulls_tokens term.nulls hrest]
  rfl

theorem readOrder_tokens {terms : List OrderTerm} (h : ∀ term ∈ terms, Phrase .disjoined term.expr) {rest : Tokens}
    (hrest : Follows ["LIMIT"] rest) :
    readOrder (Select.orderTokens terms ++ rest) = some (terms.map OrderTerm.normal, rest) := by
  cases terms with
  | nil =>
    rw [Select.orderTokens, List.nil_append, readOrder, hrest.startsWith (by decide), if_neg Bool.false_ne_true]
    rfl
  | cons first others =>
    change commaSeparated readOrderTerm (listTokens ((first :: others).map OrderTerm.tokens) ++ rest) = _
    have hcomma : ∀ tail, startsWith "NULLS" (.symbol "," :: tail) = false := fun _ => rfl
    exact commaSeparated_list hcomma (List.cons_ne_nil _ _)
      (fun term hterm _ htail => readOrderTerm_tokens (h term hterm) htail)
      (hrest.startsWith (by decide)) hrest.ne_comma

theorem readInteger_tokens (n : Int64) (rest : Tokens) : readInteger (integerTokens n ++ rest) = some (n, rest) := by
  have hread := Number.readInt64_writeInt n
  rw [Number.writeInt] at hread
  rw [integerTokens, signedTokens]
  split at hread
  · next hneg =>
    rw [if_pos (decide_eq_true hneg)]
    change (Number.readInt64 ('-' :: (String.ofList (Nat.toDigits 10 n.toInt.natAbs)).toList)).map _ = _
    rw [String.toList_ofList, hread]
    rfl
  · next hpos =>
    rw [if_neg (by rwa [decide_eq_true_eq])]
    change (Number.readInt64 (String.ofList (Nat.toDigits 10 n.toInt.natAbs)).toList).map _ = _
    rw [String.toList_ofList, hread]
    rfl

theorem readPaging_tokens (paging : Option Paging) : readPaging (pagingTokens paging) = some (paging, []) := by
  cases paging with
  | none => rfl
  | some paging =>
    obtain ⟨limit, offset⟩ := paging
    cases offset with
    | none =>
      change (readInteger (integerTokens limit ++ [])).bind _ = _
      rw [readInteger_tokens]
      rfl
    | some offset =>
      change (readInteger (integerTokens limit ++ .word "OFFSET" :: integerTokens offset)).bind _ = _
      rw [readInteger_tokens, Option.bind_some]
      change (readInteger (integerTokens offset)).bind _ = _
      have hoffset := readInteger_tokens offset []
      rw [List.append_nil] at hoffset
      rw [hoffset]
      rfl

/-! ### Statements -/

theorem Select.follows_paging (paging : Option Paging) : Follows ["LIMIT"] (pagingTokens paging) := by
  cases paging with
  | none => exact .nil
  | some paging => exact .cons List.mem_cons_self _

theorem Select.follows_order (terms : List OrderTerm) (paging : Option Paging) :
    Follows ["ORDER", "LIMIT"] (orderTokens terms ++ pagingTokens paging) := by
  cases terms with
  | nil => exact (follows_paging paging).mono (List.subset_cons_self _ _)
  | cons first others => exact .cons List.mem_cons_self _

theorem Select.follows_filter (filter : Option Expr) (terms : List OrderTerm) (paging : Option Paging) :
    Follows ["WHERE", "ORDER", "LIMIT"] (filterTokens filter ++ (orderTokens terms ++ pagingTokens paging)) := by
  cases filter with
  | none => exact (follows_order terms paging).mono (List.subset_cons_self _ _)
  | some filter => exact .cons List.mem_cons_self _

theorem Select.follows_source (s : Select) : Follows ["FROM", "WHERE", "ORDER", "LIMIT"]
    (sourceTokens s.source ++ (filterTokens s.filter ++ (orderTokens s.order ++ pagingTokens s.paging))) := by
  cases s.source with
  | none => exact (follows_filter s.filter s.order s.paging).mono (List.subset_cons_self _ _)
  | some source => exact .cons List.mem_cons_self _

theorem readSelect_tokens {s : Select} (h : s.Readable) : readSelect s.tokens = some (s.normal, []) := by
  have hitems := commaSeparated_exprs h.items_ne_nil h.items (s.follows_source.ends (by decide)) s.follows_source.ne_comma
  have hsource := readSource_tokens h.joins (Select.follows_filter s.filter s.order s.paging)
  have hfilter := readFilter_tokens h.filter (Select.follows_order s.order s.paging)
  have horder := readOrder_tokens h.order (Select.follows_paging s.paging)
  change (commaSeparated Expr.read? _).bind _ = _
  rw [hitems, Option.bind_some]
  change (readSource _).bind _ = _
  rw [hsource, Option.bind_some]
  change (readFilter _).bind _ = _
  rw [hfilter, Option.bind_some]
  change (readOrder _).bind _ = _
  rw [horder, Option.bind_some]
  change (readPaging _).bind _ = _
  rw [readPaging_tokens]
  rfl

/-- The statement of a text that is scanned into tokens which a reader uses up. -/
private theorem read?_eq {sql : String} {tokens : Tokens} {statement : Statement}
    (hlexes : Lexes Separates sql.toList tokens) (hread : readStatement tokens = some (statement, [])) :
    Statement.read? sql = some statement := by
  have hlex : (tokens? sql).map (fun placed => placed.map (·.token)) = some tokens := by
    rw [tokens?_map]
    exact hlexes.eq_some
  obtain ⟨placed, hplaced, htokens⟩ := Option.map_eq_some_iff.1 hlex
  rw [Statement.read?, hplaced, Option.bind_some, htokens, Statement.ofTokens?, hread]

theorem Statement.read?_select {s : Select} (h : s.Readable) :
    Statement.read? (Statement.select s).render = some (.select s.normal) := by
  refine read?_eq (Select.lexes h) ?_
  change (readSelect s.tokens).map _ = _
  rw [readSelect_tokens h]
  rfl

private theorem close_ne_comma (rest tail : Tokens) : .symbol ")" :: rest ≠ (.symbol "," :: tail : Tokens) := by
  simp

theorem parenthesized_tokens {α : Type} {part : Reads α} {tokens rest : Tokens} {value : α}
    (h : part (tokens ++ .symbol ")" :: rest) = some (value, .symbol ")" :: rest)) :
    parenthesized part (.symbol "(" :: (tokens ++ .symbol ")" :: rest)) = some (value, rest) := by
  change (part (tokens ++ .symbol ")" :: rest)).bind _ = _
  rw [h]
  rfl

def rowTokens (row : List Expr) : Tokens :=
  .symbol "(" :: (listTokens (row.map Expr.tokens) ++ [.symbol ")"])

def insertTokens (table : String) (columns : List String) (rows : List (List Expr)) : Tokens :=
  .word "INSERT" :: .word "INTO" :: .word table :: .symbol "(" :: (listTokens (columns.map fun column => [.word column]) ++
    .symbol ")" :: .word "VALUES" :: listTokens (rows.map rowTokens))

theorem lexes_row {row : List Expr} (h : ∀ e ∈ row, Phrase .disjoined e) :
    Lexes Separates (renderRow row).toList (rowTokens row) := by
  have hlist := lexes_commaList Expr.render Expr.tokens row fun e he => (h e he).lexes
  have hrow := lexes_open.append_free hlist.append_close
  rw [renderRow, Expr.renderAll_eq_map, String.toList_append, String.toList_append, List.append_assoc]
  exact hrow.mono fun _ _ => trivial

theorem lexes_insert {table : String} {columns : List String} {rows : List (List Expr)}
    (htable : Text.isIdentifier table = true) (hcolumns : ∀ column ∈ columns, Text.isIdentifier column = true)
    (hrows : ∀ row ∈ rows, ∀ e ∈ row, Phrase .disjoined e) :
    Lexes Separates (Statement.insert false table columns rows).render.toList (insertTokens table columns rows) := by
  have hinto : Lexes (fun _ => True) "INSERT INTO ".toList [.word "INSERT", .word "INTO"] :=
    lexes_words ["INSERT", "INTO"] (by decide)
  have hvalues : Lexes (fun _ => True) " VALUES ".toList [.word "VALUES"] := lexes_keyword "VALUES" (by decide)
  have hnames := lexes_commaList id (fun column => [.word column]) columns fun column hcolumn =>
    lexes_name column (hcolumns column hcolumn)
  have hrowList := lexes_commaList renderRow rowTokens rows fun row hrow => lexes_row (hrows row hrow)
  have hlist := lexes_open.append_free (hnames.append_close.append_free (hvalues.append_free hrowList))
  have hall := hinto.append_free ((lexes_name table htable).append_spaced (Lexes.blank.append_free hlist))
  simpa [Statement.render, insertTokens, listTokens] using hall

private theorem readInsert_rows (table : String) (tokens : Tokens) :
    readInsert (.word "INSERT" :: .word "INTO" :: .word table :: .symbol "(" :: tokens) =
      (parenthesized (commaSeparated name) (.symbol "(" :: tokens)).bind fun columns =>
        (keyword "VALUES" columns.2).bind fun values =>
          (commaSeparated (parenthesized (commaSeparated Expr.read?)) values.2).bind fun rows =>
            some (.insert false table columns.1 rows.1, rows.2) := rfl

theorem Statement.read?_insert {table : String} {columns : List String} {rows : List (List Expr)}
    (htable : Text.isIdentifier table = true) (hcolumns : ∀ column ∈ columns, Text.isIdentifier column = true)
    (hcolumnsNe : columns ≠ []) (hrows : ∀ row ∈ rows, row ≠ [] ∧ ∀ e ∈ row, Phrase .disjoined e) (hrowsNe : rows ≠ []) :
    Statement.read? (Statement.insert false table columns rows).render =
      some (.insert false table columns (rows.map fun row => row.map Expr.normal)) := by
  refine read?_eq (lexes_insert htable hcolumns fun row hrow => (hrows row hrow).2) ?_
  have hnames : ∀ tail, commaSeparated name (listTokens (columns.map fun column => [.word column]) ++ .symbol ")" :: tail) =
      some (columns, .symbol ")" :: tail) := by
    intro tail
    have hname : ∀ column ∈ columns, ∀ rest, name ([.word column] ++ rest) = some (id column, rest) := fun _ _ _ => rfl
    have h := commaSeparated_closed hcolumnsNe hname (close_ne_comma tail)
    rwa [List.map_id] at h
  have hread : ∀ row ∈ rows, ∀ tail, parenthesized (commaSeparated Expr.read?) (rowTokens row ++ tail) =
      some (row.map Expr.normal, tail) := by
    intro row hrow tail
    have hclose : Level.disjoined.Ends (.symbol ")" :: tail) := .cons rfl _
    have h := parenthesized_tokens (commaSeparated_exprs (hrows row hrow).1 (hrows row hrow).2 hclose (close_ne_comma tail))
    rwa [rowTokens, List.cons_append, List.append_assoc]
  have hnil : Follows [] [] := .nil
  have hlist := commaSeparated_closed hrowsNe hread hnil.ne_comma
  rw [List.append_nil] at hlist
  change readInsert (insertTokens table columns rows) = _
  rw [insertTokens, readInsert_rows, parenthesized_tokens (hnames _)]
  change (commaSeparated _ (listTokens (rows.map rowTokens))).bind _ = _
  rw [hlist]
  rfl

theorem Statement.read?_insertDefaults {table : String} (htable : Text.isIdentifier table = true) :
    Statement.read? (Statement.insertDefaults table).render = some (.insertDefaults table) := by
  have hinto : Lexes (fun _ => True) "INSERT INTO ".toList [.word "INSERT", .word "INTO"] :=
    lexes_words ["INSERT", "INTO"] (by decide)
  have hdefault : Lexes (fun _ => True) (' ' :: "DEFAULT ".toList) [.word "DEFAULT"] :=
    lexes_keyword "DEFAULT" (by decide)
  have hvalues := hdefault.append_free (lexes_name "VALUES" (by decide))
  have hall := hinto.append_free ((lexes_name table htable).append_spaced hvalues)
  exact read?_eq (by simpa [render] using hall) rfl

def assignmentTokens (assignment : String × Expr) : Tokens :=
  .word assignment.1 :: .symbol "=" :: assignment.2.tokens

def normalAssignment (assignment : String × Expr) : String × Expr := (assignment.1, assignment.2.normal)

theorem lexes_assignment {assignment : String × Expr} (hname : Text.isIdentifier assignment.1 = true)
    (hvalue : Phrase .disjoined assignment.2) :
    Lexes Separates (renderAssignment assignment).toList (assignmentTokens assignment) := by
  have hequal := (lexes_operator .equal).append_free hvalue.lexes
  simpa [renderAssignment, assignmentTokens, Operator.text, Operator.token] using (lexes_name _ hname).append_spaced hequal

theorem readAssignment_tokens {assignment : String × Expr} (hvalue : Phrase .disjoined assignment.2) {rest : Tokens}
    (hends : Level.disjoined.Ends rest) :
    readAssignment (assignmentTokens assignment ++ rest) = some (normalAssignment assignment, rest) := by
  change (Expr.read? (assignment.2.tokens ++ rest)).bind _ = _
  rw [Expr.read?_tokens hvalue hends]
  rfl

private theorem follows_lastFilter (filter : Option Expr) : Follows ["WHERE"] (filterTokens filter) := by
  cases filter with
  | none => exact .nil
  | some filter => exact .cons List.mem_cons_self _

private theorem readFilter_last {filter : Option Expr} (h : ∀ e ∈ filter, Phrase .disjoined e) :
    readFilter (filterTokens filter) = some (filter.map Expr.normal, []) := by
  have hread := readFilter_tokens h .nil
  rwa [List.append_nil] at hread

theorem Statement.read?_update {table : String} {assignments : List (String × Expr)} {filter : Option Expr}
    (htable : Text.isIdentifier table = true) (hne : assignments ≠ [])
    (hassignments : ∀ assignment ∈ assignments, Text.isIdentifier assignment.1 = true ∧ Phrase .disjoined assignment.2)
    (hfilter : ∀ e ∈ filter, Phrase .disjoined e) :
    Statement.read? (Statement.update table assignments filter).render =
      some (.update table (assignments.map normalAssignment) (filter.map Expr.normal)) := by
  have hupdate : Lexes (fun _ => True) "UPDATE ".toList [.word "UPDATE"] := lexes_words ["UPDATE"] (by decide)
  have hset : Lexes (fun _ => True) (' ' :: "SET ".toList) [.word "SET"] := lexes_keyword "SET" (by decide)
  have hlist := lexes_commaList renderAssignment assignmentTokens assignments fun assignment hassignment =>
    lexes_assignment (hassignments assignment hassignment).1 (hassignments assignment hassignment).2
  have hclauses := hset.append_free (hlist.append_clause (isClause_filter hfilter))
  have hall := hupdate.append_free ((lexes_name table htable).append_spaced hclauses)
  have hlexes : Lexes Separates (Statement.update table assignments filter).render.toList (.word "UPDATE" :: .word table ::
      .word "SET" :: (listTokens (assignments.map assignmentTokens) ++ filterTokens filter)) := by
    simpa [render, listTokens] using hall
  refine read?_eq hlexes ?_
  have hread := commaSeparated_list (.cons rfl) hne
    (fun assignment hassignment _ hends => readAssignment_tokens (hassignments assignment hassignment).2 hends)
    ((follows_lastFilter filter).ends (by decide)) (follows_lastFilter filter).ne_comma
  change (commaSeparated readAssignment _).bind _ = _
  rw [hread]
  change (readFilter (filterTokens filter)).bind _ = _
  rw [readFilter_last hfilter]
  rfl

theorem Statement.read?_delete {table : String} {filter : Option Expr} (htable : Text.isIdentifier table = true)
    (hfilter : ∀ e ∈ filter, Phrase .disjoined e) :
    Statement.read? (Statement.delete table filter).render = some (.delete table (filter.map Expr.normal)) := by
  have hdelete : Lexes (fun _ => True) "DELETE FROM ".toList [.word "DELETE", .word "FROM"] :=
    lexes_words ["DELETE", "FROM"] (by decide)
  have hall := hdelete.append_free ((lexes_name table htable).append_clause (isClause_filter hfilter))
  have hlexes : Lexes Separates (Statement.delete table filter).render.toList
      (.word "DELETE" :: .word "FROM" :: .word table :: filterTokens filter) := by
    simpa [render] using hall
  refine read?_eq hlexes ?_
  change (readFilter (filterTokens filter)).bind _ = _
  rw [readFilter_last hfilter]
  rfl

end ObjectStore.Sql
