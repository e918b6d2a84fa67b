/-
# Templates without syntax of their own

A template is plain if the text between its placeholders means only itself in a regular expression
and its placeholders can be names of groups (`Template.Plain`).  The reader takes a character of such
a text in one step and a placeholder in four: the name, the bracket, the star and the closing
parenthesis (`reads_pieces`).  So the source of a plain template is never refused, and its expression
has one part for every piece between the two anchors (`parse?_source`).
-/
import Mathlib
import DocTables.Proofs.Pattern.Whole
import DocTables.Proofs.Text.Variants

namespace DocTables

open Regex (Expr Flags Part Reader CharSet)

/-! ## 1. Plain templates -/

namespace Template

/-- Whether a character means more than itself outside brackets and braces. -/
def isSpecial (c : Char) : Bool :=
  ['(', ')', '[', '\x7b', '?', '*', '+', '|', '\\', '.', '^', '$'].contains c

/-- The text between placeholders. -/
def literals : List Piece → List Char
  | [] => []
  | .literal c :: pieces => c :: literals pieces
  | .placeholder _ :: pieces => literals pieces

/-- The names of the placeholders in order. -/
def groupNames : List Piece → List String
  | [] => []
  | .literal _ :: pieces => groupNames pieces
  | .placeholder name :: pieces => name :: groupNames pieces

/-- The text between placeholders is ordinary, and the placeholders are distinct names of groups. -/
structure Plain (pieces : List Piece) : Prop where
  ordinary : ∀ c ∈ literals pieces, isSpecial c = false
  isName : ∀ name ∈ groupNames pieces, Reader.isName name.toList = true
  distinct : (groupNames pieces).Nodup

theorem plain_iff (pieces : List Piece) : Plain pieces ↔ (literals pieces).all (!isSpecial ·) = true ∧
    (groupNames pieces).all (Reader.isName ·.toList) = true ∧ (groupNames pieces).Nodup := by
  simp only [List.all_eq_true, Bool.not_eq_true']
  exact ⟨fun plain => ⟨plain.ordinary, plain.isName, plain.distinct⟩,
    fun ⟨ordinary, isName, distinct⟩ => ⟨ordinary, isName, distinct⟩⟩

instance (pieces : List Piece) : Decidable (Plain pieces) :=
  decidable_of_iff' _ (plain_iff pieces)

theorem Plain.tail {piece : Piece} {pieces : List Piece} (plain : Plain (piece :: pieces)) :
    Plain pieces := by
  cases piece with
  | literal c =>
    exact ⟨(List.forall_mem_cons.mp plain.ordinary).2, plain.isName, plain.distinct⟩
  | placeholder name =>
    exact ⟨plain.ordinary, (List.forall_mem_cons.mp plain.isName).2,
      (List.nodup_cons.mp plain.distinct).2⟩

theorem placeholders_eq_eraseDups (pieces : List Piece) :
    placeholders pieces = (groupNames pieces).eraseDups := by
  refine congrArg List.eraseDups ?_
  induction pieces with
  | nil => rfl
  | cons piece pieces ih =>
    cases piece with
    | literal c => exact ih
    | placeholder name => exact congrArg (name :: ·) ih

theorem eraseDups_of_nodup : ∀ {names : List String}, names.Nodup → names.eraseDups = names
  | [], _ => rfl
  | name :: names, h => by
    obtain ⟨hname, hnames⟩ := List.nodup_cons.mp h
    have hfilter : (names.filter fun other => !other == name) = names := by
      refine List.filter_eq_self.mpr fun other hother => ?_
      have hne : other ≠ name := by
        rintro rfl
        exact hname hother
      simp [hne]
    rw [List.eraseDups_cons, hfilter, eraseDups_of_nodup hnames]

/-- Every placeholder of a plain template is kept. -/
theorem Plain.placeholders_eq {pieces : List Piece} (plain : Plain pieces) :
    placeholders pieces = groupNames pieces := by
  rw [placeholders_eq_eraseDups, eraseDups_of_nodup plain.distinct]

/-- The names of the placeholders and the numbers of their groups, after so many groups. -/
def numbered : Nat → List Piece → List (String × Nat)
  | _, [] => []
  | groups, .literal _ :: pieces => numbered groups pieces
  | groups, .placeholder name :: pieces => (name, groups + 1) :: numbered (groups + 1) pieces

theorem map_fst_numbered : ∀ (groups : Nat) (pieces : List Piece),
    (numbered groups pieces).map Prod.fst = groupNames pieces
  | _, [] => rfl
  | groups, .literal _ :: pieces => map_fst_numbered groups pieces
  | groups, .placeholder name :: pieces =>
    congrArg (name :: ·) (map_fst_numbered (groups + 1) pieces)

/-! ## 2. The expression of a plain template -/

/-- A character of the text, up to case. -/
def charExpr (c : Char) : Expr := .set (.folded (.single c))

/-- A run of letters and digits, as short as possible. -/
def runExpr : Expr := .repetition 0 none false (.set (.folded .alphanum))

/-- The parts that the pieces are read as, after so many groups. -/
def parts : Nat → List Piece → List Part
  | _, [] => []
  | groups, .literal c :: pieces => ⟨charExpr c, 0, true⟩ :: parts groups pieces
  | groups, .placeholder _ :: pieces =>
    ⟨.group (some (groups + 1)) runExpr, 4, true⟩ :: parts (groups + 1) pieces

/-- The expression of pieces up to the end of the text, after so many groups. -/
def tailExpr (groups : Nat) (pieces : List Piece) : Expr :=
  .concatOf ((parts groups pieces).map (·.expr) ++ [.look .textFinish])

theorem height_le_of_mem_parts : ∀ {groups : Nat} {pieces : List Piece}, ∀ p ∈ parts groups pieces,
    p.height ≤ 4
  | _, [], _, h => by cases h
  | groups, .literal c :: pieces, p, h => by
    rcases List.mem_cons.mp h with rfl | h
    · exact Nat.zero_le _
    · exact height_le_of_mem_parts p h
  | groups, .placeholder name :: pieces, p, h => by
    rcases List.mem_cons.mp h with rfl | h
    · exact Nat.le_refl _
    · exact height_le_of_mem_parts p h

end Template

/-! ## 3. Reading it -/

namespace Regex

namespace Level

variable {l : Level}

theorem body_of_sole (sole : l.branches = []) : l.body = l.branch := by
  unfold body
  rw [sole]
  rfl

theorem maxHeight_le {m : Nat} {ps : List Part} (h : ∀ p ∈ ps, p.height ≤ m) : maxHeight ps ≤ m := by
  suffices hfold : ∀ (heights : List Nat) (a : Nat), a ≤ m → (∀ n ∈ heights, n ≤ m) →
      heights.foldl max a ≤ m by
    refine hfold _ 0 (Nat.zero_le _) fun n hn => ?_
    obtain ⟨p, hp, rfl⟩ := List.mem_map.mp hn
    exact h p hp
  intro heights
  induction heights with
  | nil => exact fun a ha _ => ha
  | cons n heights ih =>
    intro a ha hle
    exact ih _ (Nat.max_le.mpr ⟨ha, hle n List.mem_cons_self⟩) fun k hk =>
      hle k (List.mem_cons_of_mem _ hk)

/-- An alternative is little higher than its parts. -/
theorem height_branch_le {m : Nat} (h : ∀ p ∈ l.parts, p.height ≤ m) : l.branch.height ≤ 1 + m := by
  have hreverse : ∀ p ∈ l.parts.reverse, p.height ≤ m := fun p hp => h p (List.mem_reverse.mp hp)
  unfold branch
  split
  · exact Nat.zero_le _
  · rename_i p hp
    have := hreverse p (hp ▸ List.mem_singleton_self p)
    omega
  · exact Nat.add_le_add_left (maxHeight_le hreverse) 1

end Level

namespace Reader

open Template (Piece Plain isSpecial body groupNames numbered parts)

variable {r r' : Reader} {t : List Char}

/-- What has been read after one more piece. -/
def readPiece (r : Reader) : Piece → Reader
  | .literal c => r.push ⟨Template.charExpr c, 0, true⟩
  | .placeholder name =>
    { r.push ⟨.group (some (r.groups + 1)) Template.runExpr, 4, true⟩ with
      groups := r.groups + 1, names := (name, r.groups + 1) :: r.names }

/-- What has been read after so many more pieces. -/
def readPieces (r : Reader) (pieces : List Piece) : Reader :=
  { r with
    level := { r.level with parts := (parts r.groups pieces).reverse ++ r.level.parts }
    groups := r.groups + (groupNames pieces).length
    names := (numbered r.groups pieces).reverse ++ r.names }

theorem readPieces_nil : r.readPieces [] = r := rfl

theorem readPieces_cons (piece : Piece) (pieces : List Piece) :
    r.readPieces (piece :: pieces) = (r.readPiece piece).readPieces pieces := by
  cases piece with
  | literal c => simp [readPieces, readPiece, push, parts, groupNames, numbered]
  | placeholder name =>
    simp [readPieces, readPiece, push, parts, groupNames, numbered, Nat.add_assoc, Nat.add_comm 1]

/-- A character that is not special is read as itself. -/
theorem step_literal {c : Char} (hflags : r.flags = .initial) (h : isSpecial c = false) :
    r.step c t = some (r.readPiece (.literal c), t) := by
  have hc : r.step c t = some (r.pushChar c, t) := by
    dsimp only [step]
    split
    -- the special characters, then all others
    iterate 12 exact absurd h (by decide)
    rfl
  rw [hc, pushChar, hflags]
  rfl

theorem ne_of_mem_name {name : List Char} (h : isName name = true) : ∀ c ∈ name, c ≠ '>' := by
  rintro c hc rfl
  cases name with
  | nil => cases hc
  | cons d name =>
    rw [isName, Bool.and_eq_true, List.all_eq_true] at h
    rcases List.mem_cons.mp hc with rfl | hc
    · exact absurd h.1 (by decide)
    · exact absurd (h.2 _ hc) (by decide)

/-- Inside the group of a placeholder. -/
def insidePlaceholder (r : Reader) (name : String) : Reader :=
  { r.openGroup (.capture (r.groups + 1)) r.flags with
    groups := r.groups + 1, names := (name, r.groups + 1) :: r.names }

theorem openNamed_name {name : String} (h : isName name.toList = true)
    (new : r.names.lookup name = none) :
    r.openNamed (name.toList ++ '>' :: t) = some (r.insidePlaceholder name, t) := by
  have hpos : ∀ c ∈ name.toList, (c != '>') = true := fun c hc => by
    simpa using ne_of_mem_name h c hc
  have htake : (name.toList ++ '>' :: t).takeWhile (· != '>') = name.toList := by
    rw [List.takeWhile_append_of_pos hpos]
    simp
  have hdrop : (name.toList ++ '>' :: t).dropWhile (· != '>') = '>' :: t := by
    rw [List.dropWhile_append_of_pos hpos]
    rfl
  simp only [openNamed, htake, hdrop, String.ofList_toList, h, new]
  rfl

theorem step_bracket (hflags : r.flags = .initial) :
    r.step '[' ("a-zA-Z0-9]".toList ++ t) =
      some (r.push ⟨.set (.folded .alphanum), 2, true⟩, t) := by
  unfold step
  rw [hflags]
  rfl

theorem step_star (hflags : r.flags = .initial) (s : CharSet) (height : Nat) :
    (r.push ⟨.set s, height, true⟩).step '*' ('?' :: t) =
      some (r.push ⟨.repetition 0 none false (.set s), height + 1, true⟩, t) := by
  obtain ⟨flags, level, outer, groups, names⟩ := r
  obtain rfl : flags = .initial := hflags
  rfl

theorem step_close (name : String) :
    ((r.insidePlaceholder name).push ⟨Template.runExpr, 3, true⟩).step ')' t =
      some (r.readPiece (.placeholder name), t) := by
  obtain ⟨flags, level, outer, groups, names⟩ := r
  rfl

theorem body_placeholder (name : String) (pieces : List Piece) :
    body (.placeholder name :: pieces) = '(' :: '?' :: 'P' :: '<' :: (name.toList ++
      '>' :: '[' :: ("a-zA-Z0-9]".toList ++ '*' :: '?' :: ')' :: body pieces)) := by
  have hopen : "(?P<".toList = ['(', '?', 'P', '<'] := by decide
  have hrun : Template.placeholderSource = '[' :: ("a-zA-Z0-9]".toList ++ ['*', '?']) := by decide
  simp only [body, List.flatMap_cons, hopen, hrun, List.append_assoc, List.cons_append,
    List.nil_append]

/-- **A placeholder** is read in four steps: its name, the bracket, the star and the closing
parenthesis. -/
theorem reads_placeholder {n : Nat} {name : String} {pieces : List Piece}
    (hflags : r.flags = .initial) (h : isName name.toList = true)
    (new : r.names.lookup name = none)
    (later : Reads n (r.readPiece (.placeholder name)) (body pieces ++ t) r') :
    Reads (n + 4) r (body (.placeholder name :: pieces) ++ t) r' := by
  have hskip (cs : List Char) : r.flags.skip cs = cs := by
    rw [hflags]
    rfl
  have hbody : body (.placeholder name :: pieces) ++ t = '(' :: '?' :: 'P' :: '<' ::
      (name.toList ++ '>' :: '[' ::
        ("a-zA-Z0-9]".toList ++ '*' :: '?' :: ')' :: (body pieces ++ t))) := by
    rw [body_placeholder]
    simp
  rw [hbody]
  have hopens := Opens.longNamed (openNamed_name h new (t := '[' ::
    ("a-zA-Z0-9]".toList ++ '*' :: '?' :: ')' :: (body pieces ++ t))))
  rw [← hskip ('?' :: _)] at hopens
  refine .step (hskip _) (readOpening_of_opens hopens) ?_
  refine .step (hskip _) (step_bracket (r := r.insidePlaceholder name) hflags) ?_
  refine .step (hskip _) (step_star (r := r.insidePlaceholder name) hflags _ 2) ?_
  exact .step (hskip _) (step_close name) later

/-- **The pieces of a plain template** are read one after another. -/
theorem reads_pieces {n : Nat} : ∀ {pieces : List Piece} {r : Reader}, Plain pieces →
    r.flags = .initial → (∀ name ∈ groupNames pieces, r.names.lookup name = none) →
      Reads n (r.readPieces pieces) t r' →
        ∃ m ≤ (body pieces).length, Reads (n + m) r (body pieces ++ t) r'
  | [], r, _, _, _, later => by
    refine ⟨0, Nat.le_refl _, ?_⟩
    rwa [readPieces_nil] at later
  | .literal c :: pieces, r, plain, hflags, new, later => by
    rw [readPieces_cons] at later
    obtain ⟨m, hm, reads⟩ := reads_pieces plain.tail (r := r.readPiece (.literal c)) hflags new later
    refine ⟨m + 1, Nat.succ_le_succ hm, .step ?_ (step_literal hflags ?_) reads⟩
    · rw [hflags]
      rfl
    · exact plain.ordinary c List.mem_cons_self
  | .placeholder name :: pieces, r, plain, hflags, new, later => by
    rw [readPieces_cons] at later
    have new' : ∀ other ∈ groupNames pieces,
        (r.readPiece (.placeholder name)).names.lookup other = none := by
      intro other hother
      have hne : other ≠ name := by
        rintro rfl
        exact (List.nodup_cons.mp plain.distinct).1 hother
      change List.lookup other ((name, _) :: r.names) = none
      rw [List.lookup_cons, beq_false_of_ne hne]
      exact new other (List.mem_cons_of_mem _ hother)
    obtain ⟨m, hm, reads⟩ :=
      reads_pieces plain.tail (r := r.readPiece (.placeholder name)) hflags new' later
    refine ⟨m + 4, ?_, reads_placeholder hflags (plain.isName name List.mem_cons_self)
      (new name List.mem_cons_self) reads⟩
    rw [body_placeholder]
    simp only [List.length_cons, List.length_append]
    omega

end Reader

theorem Expr.concatOf_cons {e : Expr} {es : List Expr} (h : es ≠ []) :
    concatOf (e :: es) = .concat e (concatOf es) := by
  cases es with
  | nil => exact absurd rfl h
  | cons e' es => rfl

/-- Two anchors and between them a text that is read as some pieces: it is not refused, and its
expression has one part for every piece. -/
theorem parse?_of_reads {pieces : List Template.Piece} {text : List Char}
    (h : ∃ m ≤ text.length, Reader.Reads (1 + m) (Reader.start.push .start) (text ++ ['$'])
      (((Reader.start.push .start).readPieces pieces).push ⟨.look .textFinish, 0, true⟩)) :
    parse? ('^' :: text ++ ['$']) =
      some ⟨.concat (.look .textStart) (Template.tailExpr 0 pieces),
        (Template.numbered 0 pieces).reverse⟩ := by
  obtain ⟨m, hm, reads⟩ := h
  have hread : Reader.readAll (('^' :: text ++ ['$']).length + 1) .start ('^' :: text ++ ['$']) =
      some (((Reader.start.push .start).readPieces pieces).push ⟨.look .textFinish, 0, true⟩) := by
    refine Reader.readAll_eq_some_iff.mpr ⟨_, ?_, .step (c := '^') rfl rfl reads⟩
    simp only [List.length_append, List.length_cons, List.length_nil]
    omega
  have hparts : (((Reader.start.push .start).readPieces pieces).push
      ⟨.look .textFinish, 0, true⟩).level.parts =
        ⟨.look .textFinish, 0, true⟩ :: ((Template.parts 0 pieces).reverse ++ [.start]) := rfl
  refine parse?_eq_some_iff.mpr ⟨_, hread, rfl, ?_, ?_⟩
  · rw [Level.body_of_sole rfl]
    refine (Level.height_branch_le (m := 4) ?_).trans (by decide)
    rw [hparts]
    simp only [List.mem_cons, List.mem_append, List.mem_reverse, List.not_mem_nil, or_false]
    rintro p (rfl | hp | rfl)
    · exact Nat.zero_le _
    · exact Template.height_le_of_mem_parts p hp
    · exact Nat.zero_le _
  · have hnames : (((Reader.start.push .start).readPieces pieces).push
        ⟨.look .textFinish, 0, true⟩).names = (Template.numbered 0 pieces).reverse :=
      List.append_nil _
    rw [Level.body_of_sole rfl, Level.expr_branch, hparts, hnames]
    simp only [List.reverse_cons, List.reverse_append, List.reverse_reverse, List.reverse_nil,
      List.nil_append, List.cons_append, List.map_cons, List.map_append, List.map_nil]
    rw [Expr.concatOf_cons (by simp)]
    rfl

/-- **The source of a plain template** is not refused: it has the parts of its pieces between two
anchors. -/
theorem parse?_source {pieces : List Template.Piece} (plain : Template.Plain pieces) :
    parse? (Template.source pieces) =
      some ⟨.concat (.look .textStart) (Template.tailExpr 0 pieces),
        (Template.numbered 0 pieces).reverse⟩ :=
  parse?_of_reads (Reader.reads_pieces plain rfl (fun _ _ => rfl) (.step (c := '$') rfl rfl (.done rfl)))

end Regex

end DocTables
