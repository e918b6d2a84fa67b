/-
# JSON text is read back

A value without numbers that has been written on one line is read as the same value, provided that
no more than `maxDepth` brackets are open at once in it; otherwise it is refused
(`parse?_compact_eq`).

The reader goes from characters to tokens, from tokens to a tree and from the tree to the value, and
there is one statement for each: the text of a value is cut into the tokens of its tree
(`CutInto.chars`), the tokens of any tree make that tree (`Progress.foldlM_tokens`), and the tree of
a value stands for the value as far as brackets may be opened (`value?_toDraft`).  The first two are
about text that goes on behind the value, so that they pass from the parts to the whole.
-/
import DocTables.Json.Draft
import DocTables.Json.Printer
import DocTables.Proofs.Json.Quoted

namespace DocTables.Json

/-! ## 1. Trees of values -/

mutual

/-- The tree of a value, every part of which stands for a value. -/
def toDraft : Json → Draft
  | .null => .null
  | .bool b => .bool b
  | .number n => .number (some n)
  | .string s => .string (some s)
  | .array items => .array (draftsOfItems items)
  | .object members => .object (draftsOfMembers members)

/-- The trees of items. -/
def draftsOfItems : List Json → List Draft
  | [] => []
  | j :: rest => j.toDraft :: draftsOfItems rest

/-- The names and trees of members. -/
def draftsOfMembers : List (String × Json) → List (Option String × Draft)
  | [] => []
  | (key, j) :: rest => (some key, j.toDraft) :: draftsOfMembers rest

end

mutual

/-- The number of brackets that are open at once in a value. -/
def depth : Json → Nat
  | .array items => depthOfItems items + 1
  | .object members => depthOfMembers members + 1
  | _ => 0

/-- The greatest depth of items. -/
def depthOfItems : List Json → Nat
  | [] => 0
  | j :: rest => max j.depth (depthOfItems rest)

/-- The greatest depth of the values of members. -/
def depthOfMembers : List (String × Json) → Nat
  | [] => 0
  | (_, j) :: rest => max j.depth (depthOfMembers rest)

end

mutual

/-- **The tree of a value stands for the value** as far as brackets may be opened. -/
theorem value?_toDraft : ∀ (j : Json) (most : Nat),
    j.toDraft.value? most = if j.depth ≤ most then some j else none
  | .null, _ => rfl
  | .bool _, _ => rfl
  | .number _, _ => rfl
  | .string _, _ => rfl
  | .array _, 0 => by simp [toDraft, Draft.value?, depth]
  | .array items, most + 1 => by
    rw [toDraft, Draft.value?, items?_draftsOfItems items most, depth]
    by_cases h : depthOfItems items ≤ most <;> simp [h]
  | .object _, 0 => by simp [toDraft, Draft.value?, depth]
  | .object members, most + 1 => by
    rw [toDraft, Draft.value?, members?_draftsOfMembers members most, depth]
    by_cases h : depthOfMembers members ≤ most <;> simp [h]

theorem items?_draftsOfItems : ∀ (items : List Json) (most : Nat),
    Draft.items? most (draftsOfItems items) =
      if depthOfItems items ≤ most then some items else none
  | [], _ => by simp [draftsOfItems, Draft.items?, depthOfItems]
  | j :: items, most => by
    rw [draftsOfItems, Draft.items?, value?_toDraft j most, items?_draftsOfItems items most,
      depthOfItems]
    simp only [Nat.max_le]
    by_cases hfirst : j.depth ≤ most <;> by_cases hothers : depthOfItems items ≤ most <;>
      simp [hfirst, hothers]

theorem members?_draftsOfMembers : ∀ (members : List (String × Json)) (most : Nat),
    Draft.members? most (draftsOfMembers members) =
      if depthOfMembers members ≤ most then some members else none
  | [], _ => by simp [draftsOfMembers, Draft.members?, depthOfMembers]
  | (key, j) :: members, most => by
    rw [draftsOfMembers, Draft.members?, value?_toDraft j most,
      members?_draftsOfMembers members most, depthOfMembers]
    simp only [Nat.max_le]
    by_cases hfirst : j.depth ≤ most <;> by_cases hothers : depthOfMembers members ≤ most <;>
      simp [hfirst, hothers]

end

/-! ## 2. Trees and their tokens -/

mutual

/-- The tokens of a tree. -/
def Draft.tokens : Draft → List Token
  | .null => [.null]
  | .bool b => [.bool b]
  | .number n => [.number n]
  | .string s => [.string s]
  | .array items => .openArray :: Draft.tokensOfItems items ++ [.closeArray]
  | .object members => .openObject :: Draft.tokensOfMembers members ++ [.closeObject]

/-- The tokens of items, with commas between them. -/
def Draft.tokensOfItems : List Draft → List Token
  | [] => []
  | [d] => d.tokens
  | d :: rest => d.tokens ++ .comma :: Draft.tokensOfItems rest

/-- The tokens of members, with commas between them. -/
def Draft.tokensOfMembers : List (Option String × Draft) → List Token
  | [] => []
  | [(key, d)] => .string key :: .colon :: d.tokens
  | (key, d) :: rest => .string key :: .colon :: d.tokens ++ .comma :: Draft.tokensOfMembers rest

end

namespace Progress

theorem tokensOfItems_cons (d : Draft) (items : List Draft) :
    ∃ others, Draft.tokensOfItems (d :: items) = d.tokens ++ others := by
  cases items with
  | nil => exact ⟨[], (List.append_nil _).symm⟩
  | cons e items => exact ⟨_, rfl⟩

/-- Behind an open bracket, an item is read as any value: it does not begin with the closing one. -/
theorem foldlM_firstItem (d : Draft) (ts : List Token) (stack : List Frame) :
    (d.tokens ++ ts).foldlM step (.firstItem stack) =
      (d.tokens ++ ts).foldlM step (.value (.array [] :: stack)) := by
  cases d <;> rfl

mutual

/-- **The tokens of a tree make the tree** where a value is due. -/
theorem foldlM_tokens : ∀ (d : Draft) (ts : List Token) (stack : List Frame),
    (d.tokens ++ ts).foldlM step (.value stack) = ts.foldlM step (finish d stack)
  | .null, _, _ => rfl
  | .bool _, _, _ => rfl
  | .number _, _, _ => rfl
  | .string _, _, _ => rfl
  | .array [], _, _ => rfl
  | .array (d :: items), ts, stack => by
    have hitems := foldlM_tokensOfItems (d :: items) [] ts stack (List.cons_ne_nil _ _)
    obtain ⟨others, hfirst⟩ := tokensOfItems_cons d items
    rw [hfirst, List.append_assoc, ← foldlM_firstItem] at hitems
    rw [Draft.tokens, hfirst, List.append_assoc, List.cons_append, List.append_assoc]
    exact hitems
  | .object [], _, _ => rfl
  | .object (m :: members), ts, stack => by
    have hmembers := foldlM_tokensOfMembers (m :: members) [] ts stack (List.cons_ne_nil _ _)
    rw [Draft.tokens, List.append_assoc]
    exact hmembers

/-- Items that have been read, and items that come. -/
theorem foldlM_tokensOfItems : ∀ (items read : List Draft) (ts : List Token) (stack : List Frame),
    items ≠ [] → (Draft.tokensOfItems items ++ .closeArray :: ts).foldlM step
        (.value (.array read :: stack)) =
      ts.foldlM step (finish (.array (read.reverse ++ items)) stack)
  | [], _, _, _, h => absurd rfl h
  | [d], read, ts, stack, _ => by
    rw [Draft.tokensOfItems, foldlM_tokens d, ← List.reverse_cons]
    rfl
  | d :: e :: items, read, ts, stack, _ => by
    have hrest := foldlM_tokensOfItems (e :: items) (d :: read) ts stack (List.cons_ne_nil _ _)
    rw [List.reverse_cons, List.append_assoc, List.singleton_append] at hrest
    rw [Draft.tokensOfItems, List.append_assoc, foldlM_tokens d, ← hrest]
    · rfl
    · exact fun h => List.cons_ne_nil _ _ h

theorem foldlM_tokensOfMembers : ∀ (members read : List (Option String × Draft)) (ts : List Token)
    (stack : List Frame), members ≠ [] →
      (Draft.tokensOfMembers members ++ .closeObject :: ts).foldlM step (.name read stack) =
        ts.foldlM step (finish (.object (read.reverse ++ members)) stack)
  | [], _, _, _, h => absurd rfl h
  | [(key, d)], read, ts, stack, _ => by
    have hvalue := foldlM_tokens d (.closeObject :: ts) (.object read key :: stack)
    rw [Draft.tokensOfMembers, ← List.reverse_cons]
    exact hvalue
  | (key, d) :: e :: members, read, ts, stack, _ => by
    have hrest :=
      foldlM_tokensOfMembers (e :: members) ((key, d) :: read) ts stack (List.cons_ne_nil _ _)
    have hvalue := foldlM_tokens d (.comma :: (Draft.tokensOfMembers (e :: members) ++
      .closeObject :: ts)) (.object read key :: stack)
    rw [List.reverse_cons, List.append_assoc, List.singleton_append] at hrest
    rw [Draft.tokensOfMembers, List.append_assoc, ← hrest]
    · exact hvalue
    · exact fun h => List.cons_ne_nil _ _ h

end

end Progress

/-! ## 3. Texts and their tokens -/

/-- A value without numbers in it. -/
inductive NumberFree : Json → Prop
  | null : NumberFree .null
  | bool (b : Bool) : NumberFree (.bool b)
  | string (s : String) : NumberFree (.string s)
  | array {items : List Json} (parts : ∀ j ∈ items, NumberFree j) : NumberFree (.array items)
  | object {members : List (String × Json)} (parts : ∀ e ∈ members, NumberFree e.2) :
      NumberFree (.object members)

/-- A text is cut into these tokens, whatever fuel there is, as long as it is enough. -/
def CutInto (cs : List Char) (ts : List Token) : Prop :=
  ∀ fuel, cs.length < fuel → scanTokens fuel cs = some ts

namespace CutInto

theorem nil : CutInto [] [] := fun
  | _ + 1, _ => rfl

theorem token {c : Char} {cs rest : List Char} {t : Token} {ts : List Token}
    (space : isSpace c = false) (first : scanToken (c :: cs) = some (t, rest))
    (shorter : rest.length ≤ cs.length) (others : CutInto rest ts) :
    CutInto (c :: cs) (t :: ts) := by
  rintro (_ | fuel) hfuel
  · exact absurd hfuel (Nat.not_lt_zero _)
  · have hrest : rest.length < fuel := by
      simp only [List.length_cons] at hfuel
      omega
    rw [scanTokens, space, first]
    simp [others fuel hrest]

theorem quote {rest : List Char} {ts : List Token} (h : CutInto rest ts) (s : String) :
    CutInto (Json.quote s ++ rest) (.string (some s) :: ts) := by
  have hscan : scanToken ('"' :: (s.toList.flatMap escapeChar ++ '"' :: rest)) =
      some (.string (some s), rest) := by
    rw [scanToken, scanQuoted_quote]
    rfl
  rw [Json.quote, List.append_assoc, List.cons_append]
  refine token rfl hscan ?_ h
  simp only [List.length_append, List.length_cons]
  omega

mutual

/-- **The text of a value is cut into the tokens of its tree**, whatever follows it. -/
theorem chars : ∀ {j : Json} {rest : List Char} {ts : List Token}, NumberFree j → CutInto rest ts →
    CutInto (j.chars ++ rest) (j.toDraft.tokens ++ ts)
  | .null, rest, _, _, h =>
    have shorter := (List.suffix_append ['u', 'l', 'l'] rest).length_le
    token rfl rfl shorter h
  | .bool true, rest, _, _, h =>
    have shorter := (List.suffix_append ['r', 'u', 'e'] rest).length_le
    token rfl rfl shorter h
  | .bool false, rest, _, _, h =>
    have shorter := (List.suffix_append ['a', 'l', 's', 'e'] rest).length_le
    token rfl rfl shorter h
  | .string s, rest, ts, _, h => h.quote s
  | .array items, rest, ts, free, h => by
    cases free with
    | array parts =>
      have hclose : CutInto (']' :: rest) (.closeArray :: ts) := token rfl rfl (Nat.le_refl _) h
      have hitems := charsOfItems parts hclose
      rw [Json.chars, toDraft, Draft.tokens]
      simp only [List.cons_append, List.append_assoc, List.nil_append]
      exact token rfl rfl (Nat.le_refl _) hitems
  | .object members, rest, ts, free, h => by
    cases free with
    | object parts =>
      have hclose : CutInto ('}' :: rest) (.closeObject :: ts) := token rfl rfl (Nat.le_refl _) h
      have hmembers := charsOfMembers parts hclose
      rw [Json.chars, toDraft, Draft.tokens]
      simp only [List.cons_append, List.append_assoc, List.nil_append]
      exact token rfl rfl (Nat.le_refl _) hmembers

theorem charsOfItems : ∀ {items : List Json} {rest : List Char} {ts : List Token},
    (∀ j ∈ items, NumberFree j) → CutInto rest ts →
      CutInto (Json.charsOfItems items ++ rest) (Draft.tokensOfItems (draftsOfItems items) ++ ts)
  | [], _, _, _, h => h
  | [j], _, _, free, h => chars (free j (by simp)) h
  | j :: k :: items, rest, ts, free, h => by
    have hothers : CutInto (Json.charsOfItems (k :: items) ++ rest)
        (Draft.tokensOfItems (draftsOfItems (k :: items)) ++ ts) :=
      charsOfItems (fun i hi => free i (by simp [hi])) h
    have hcomma : CutInto (',' :: _) (.comma :: _) := token rfl rfl (Nat.le_refl _) hothers
    have hfirst := chars (free j (by simp)) hcomma
    simpa [Json.charsOfItems, draftsOfItems, Draft.tokensOfItems] using hfirst

theorem charsOfMembers : ∀ {members : List (String × Json)} {rest : List Char} {ts : List Token},
    (∀ e ∈ members, NumberFree e.2) → CutInto rest ts →
      CutInto (Json.charsOfMembers members ++ rest)
        (Draft.tokensOfMembers (draftsOfMembers members) ++ ts)
  | [], _, _, _, h => h
  | [(key, j)], _, _, free, h => by
    have hvalue := chars (free (key, j) (by simp)) h
    have hcolon : CutInto (':' :: _) (.colon :: _) := token rfl rfl (Nat.le_refl _) hvalue
    simpa [Json.charsOfMembers, draftsOfMembers, Draft.tokensOfMembers] using hcolon.quote key
  | (key, j) :: e :: members, rest, ts, free, h => by
    have hothers : CutInto (Json.charsOfMembers (e :: members) ++ rest)
        (Draft.tokensOfMembers (draftsOfMembers (e :: members)) ++ ts) :=
      charsOfMembers (fun i hi => free i (by simp [hi])) h
    have hcomma : CutInto (',' :: _) (.comma :: _) := token rfl rfl (Nat.le_refl _) hothers
    have hvalue := chars (free (key, j) (by simp)) hcomma
    have hcolon : CutInto (':' :: _) (.colon :: _) := token rfl rfl (Nat.le_refl _) hvalue
    simpa [Json.charsOfMembers, draftsOfMembers, Draft.tokensOfMembers] using hcolon.quote key

end

end CutInto

/-! ## 4. Reading what has been written -/

/-- **The text of a value is read as its tree.** -/
theorem parse?_compact {j : Json} (h : NumberFree j) : Draft.parse? j.compact = some j.toDraft := by
  have htokens : tokens? j.compact = some j.toDraft.tokens := by
    have hcut := CutInto.chars h .nil
    rw [List.append_nil, List.append_nil] at hcut
    rw [tokens?, compact, String.toList_ofList]
    exact hcut _ (Nat.lt_succ_self _)
  have htree := Progress.foldlM_tokens j.toDraft [] []
  rw [List.append_nil] at htree
  rw [Draft.parse?, htokens]
  simp [htree, Progress.finish]

/-- **The text of a value is read as the value** if no more than `maxDepth` brackets are open at
once in it; otherwise it is refused. -/
theorem parse?_compact_eq {j : Json} (h : NumberFree j) :
    parse? j.compact = if j.depth ≤ maxDepth then some j else none := by
  rw [parse?, parse?_compact h]
  exact value?_toDraft j maxDepth

end DocTables.Json
