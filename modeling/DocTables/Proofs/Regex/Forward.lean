/-
# Reading goes forward

What a scan leaves is an end of the text that it was given; nothing is put in front of it.  So it is
with the scans for switches, escapes, brackets and counts, and with a step of the reader
(`step_suffix`): whatever the reader comes to stands in the text of the pattern.
-/
import Mathlib
import DocTables.Proofs.Regex.Reading

namespace DocTables.Regex

variable {f : Flags} {cs rest : List Char}

/-! ## 1. Spaces and switches -/

namespace Flags

/-- What follows the next character that means something. -/
theorem suffix_of_skip {c : Char} (h : f.skip cs = c :: rest) : rest <:+ cs :=
  (List.suffix_cons c rest).trans (h ▸ f.skip_suffix cs)

theorem readSwitches_suffix : ∀ {cs : List Char} {f g : Flags} {seen seen' rest : List Char},
    f.readSwitches seen cs = some (g, seen', rest) → rest <:+ cs
  | [], _, _, _, _, _, h => by cases h
  | c :: cs, f, g, seen, seen', rest, h => by
    rw [readSwitches] at h
    split at h
    · split at h
      · cases h
      · cases h
        exact List.suffix_refl _
    · split at h
      · cases h
      · split at h
        · exact (readSwitches_suffix h).trans (List.suffix_cons c cs)
        · obtain ⟨g', -, h⟩ := Option.bind_eq_some_iff.mp h
          exact (readSwitches_suffix h).trans (List.suffix_cons c cs)

end Flags

/-! ## 2. Escapes -/

theorem scanBraced_suffix : ∀ {n : Nat} {cs digits rest : List Char},
    scanBraced f n cs = some (digits, rest) → rest <:+ cs
  | 0, _, _, _, h => by cases h
  | n + 1, cs, digits, rest, h => by
    rw [scanBraced] at h
    split at h
    · cases h
    · rename_i hskip
      cases h
      exact Flags.suffix_of_skip hskip
    · rename_i hskip
      obtain ⟨⟨ds, rs⟩, hrec, heq⟩ := Option.bind_eq_some_iff.mp h
      cases heq
      exact (scanBraced_suffix hrec).trans (Flags.suffix_of_skip hskip)

theorem scanSome_suffix : ∀ {n : Nat} {cs digits rest : List Char},
    scanSome f n cs = some (digits, rest) → rest <:+ cs
  | 0, _, _, _, h => by
    cases h
    exact List.suffix_refl _
  | n + 1, cs, digits, rest, h => by
    rw [scanSome] at h
    split at h
    · cases h
    · rename_i hskip
      obtain ⟨⟨ds, rs⟩, hrec, heq⟩ := Option.bind_eq_some_iff.mp h
      cases heq
      exact (scanSome_suffix hrec).trans (Flags.suffix_of_skip hskip)

theorem readCode_suffix {width : Nat} {atom : Atom} (h : readCode f width cs = some (atom, rest)) :
    rest <:+ cs := by
  unfold readCode at h
  split at h
  · rename_i hskip
    obtain ⟨⟨ds, rs⟩, hscan, h⟩ := Option.bind_eq_some_iff.mp h
    obtain ⟨c, -, heq⟩ := Option.bind_eq_some_iff.mp h
    cases heq
    exact (scanBraced_suffix hscan).trans (Flags.suffix_of_skip hskip)
  · obtain ⟨⟨ds, rs⟩, hscan, h⟩ := Option.bind_eq_some_iff.mp h
    obtain ⟨c, -, heq⟩ := Option.bind_eq_some_iff.mp h
    cases heq
    exact (scanSome_suffix hscan).trans (f.skip_suffix cs)

theorem readProperty_suffix {negated : Bool} {atom : Atom}
    (h : readProperty f negated cs = some (atom, rest)) : rest <:+ cs := by
  unfold readProperty at h
  split at h
  · cases h
  · split at h
    · cases h
    · cases h
    · rename_i hskip
      obtain ⟨⟨name, rs⟩, hscan, h⟩ := Option.bind_eq_some_iff.mp h
      obtain ⟨_, -, h⟩ := Option.bind_eq_some_iff.mp h
      obtain ⟨_, -, heq⟩ := Option.bind_eq_some_iff.mp h
      cases heq
      exact (scanBraced_suffix hscan).trans (Flags.suffix_of_skip hskip)
    · rename_i hskip
      obtain ⟨⟨name, rs⟩, hname, h⟩ := Option.bind_eq_some_iff.mp h
      cases hname
      obtain ⟨_, -, h⟩ := Option.bind_eq_some_iff.mp h
      obtain ⟨_, -, heq⟩ := Option.bind_eq_some_iff.mp h
      cases heq
      exact Flags.suffix_of_skip hskip

theorem readEdge_suffix {kind : Edge} (h : readEdge f cs = some (kind, rest)) : rest <:+ cs := by
  unfold readEdge at h
  split at h
  · rename_i more
    split at h
    · cases h
    · rename_i hskip
      dsimp only at h
      split at h
      · obtain ⟨⟨name, rs⟩, hscan, h⟩ := Option.bind_eq_some_iff.mp h
        obtain ⟨_, -, heq⟩ := Option.bind_eq_some_iff.mp h
        cases heq
        have inside : rs <:+ more := (scanBraced_suffix hscan).trans (hskip ▸ f.skip_suffix more)
        exact inside.trans (List.suffix_cons _ more)
      · cases h
        exact List.suffix_refl _
  · cases h
    exact List.suffix_refl _

/-- A choice of which both sides give the same. -/
theorem of_ite_eq_some {α : Type} {c : Prop} [Decidable c] {a b : Option α} {x : α} {P : Prop}
    (yes : a = some x → P) (no : b = some x → P) : (if c then a else b) = some x → P := by
  split
  · exact yes
  · exact no

theorem readEscape_suffix {atom : Atom} (h : readEscape f cs = some (atom, rest)) : rest <:+ cs := by
  cases cs with
  | nil => cases h
  | cons c cs =>
    have single {atom' : Atom} (h : some (atom', cs) = some (atom, rest)) : rest <:+ cs := by
      cases h
      exact List.suffix_refl _
    have chosen {α : Type} {o : Option α} {g : α → Atom}
        (h : o.map (fun a => (g a, cs)) = some (atom, rest)) : rest <:+ cs := by
      obtain ⟨a, -, heq⟩ := Option.map_eq_some_iff.mp h
      exact single (congrArg some heq)
    refine List.IsSuffix.trans ?_ (List.suffix_cons c cs)
    revert h
    rw [readEscape]
    refine of_ite_eq_some readCode_suffix ?_
    refine of_ite_eq_some readCode_suffix ?_
    refine of_ite_eq_some readCode_suffix ?_
    refine of_ite_eq_some readProperty_suffix ?_
    refine of_ite_eq_some single ?_
    refine of_ite_eq_some chosen ?_
    refine of_ite_eq_some single ?_
    refine of_ite_eq_some single ?_
    refine of_ite_eq_some single ?_
    refine of_ite_eq_some (fun h => ?_) ?_
    · obtain ⟨⟨kind, rs⟩, hedge, heq⟩ := Option.map_eq_some_iff.mp h
      cases heq
      exact readEdge_suffix hedge
    · exact of_ite_eq_some single (of_ite_eq_some single (of_ite_eq_some single chosen))

/-! ## 3. Sets in brackets -/

theorem namedClass_suffix {negated negated' : Bool} {ranges : List (Nat × Nat)}
    (h : namedClass negated cs = some (ranges, negated', rest)) : rest <:+ cs := by
  unfold namedClass at h
  split at h
  · rename_i more hdrop
    obtain ⟨_, -, heq⟩ := Option.map_eq_some_iff.mp h
    cases heq
    have here : ':' :: ']' :: rest <:+ cs := hdrop ▸ List.dropWhile_suffix _
    exact ((List.suffix_cons _ rest).trans (List.suffix_cons _ _)).trans here
  · cases h

theorem scanAsciiClass_suffix {negated : Bool} {ranges : List (Nat × Nat)}
    (h : scanAsciiClass cs = some (ranges, negated, rest)) : rest <:+ cs := by
  cases cs with
  | nil => cases h
  | cons c cs =>
    refine List.IsSuffix.trans ?_ (List.suffix_cons c cs)
    by_cases colon : c = ':'
    · subst colon
      cases cs with
      | nil => cases h
      | cons d cs =>
        by_cases mark : d = '^'
        · subst mark
          have h : namedClass true cs = some (ranges, negated, rest) := h
          exact (namedClass_suffix h).trans (List.suffix_cons _ cs)
        · rw [scanAsciiClass_colon mark] at h
          exact namedClass_suffix h
    · simp [scanAsciiClass, colon] at h

theorem scanDashes_suffix : ∀ (b : Bracket) (n : Nat) (cs : List Char), (scanDashes f b n cs).2 <:+ cs
  | _, 0, _ => List.suffix_refl _
  | b, n + 1, cs => by
    unfold scanDashes
    split
    · rename_i more
      exact ((scanDashes_suffix _ n _).trans (f.skip_suffix more)).trans (List.suffix_cons _ more)
    · exact List.suffix_refl _

theorem openMembers_suffix (f : Flags) (negated : Bool) (cs : List Char) :
    (openMembers f negated cs).2 <:+ cs := by
  have dashes := scanDashes_suffix (f := f) ⟨negated, [], none⟩ cs.length cs
  unfold openMembers
  dsimp only
  split
  · rename_i more _ hmore
    rw [hmore] at dashes
    exact ((f.skip_suffix more).trans (List.suffix_cons _ more)).trans dashes
  · exact dashes

theorem openBracket_suffix (f : Flags) (cs : List Char) : (openBracket f cs).2 <:+ cs := by
  by_cases mark : ∃ more, f.skip cs = '^' :: more
  · obtain ⟨more, hskip⟩ := mark
    rw [openBracket_negated hskip]
    exact ((openMembers_suffix f _ _).trans (f.skip_suffix more)).trans (Flags.suffix_of_skip hskip)
  · rw [openBracket_plain (not_exists.mp mark)]
    exact (openMembers_suffix f _ _).trans (f.skip_suffix cs)

theorem readAtom_suffix {atom : Atom} (h : readAtom f cs = some (atom, rest)) : rest <:+ cs := by
  unfold readAtom at h
  split at h
  · cases h
  · exact (readEscape_suffix h).trans (List.suffix_cons _ _)
  · cases h
    exact List.suffix_cons _ _

theorem readMember_suffix {m : Member} (h : readMember f cs = some (m, rest)) : rest <:+ cs := by
  rw [readMember_eq] at h
  obtain ⟨⟨first, more⟩, hfirst, h⟩ := Option.bind_eq_some_iff.mp h
  have after : f.skip more <:+ cs := (f.skip_suffix more).trans (readAtom_suffix hfirst)
  split at h
  · obtain ⟨⟨last, rs⟩, hlast, h⟩ := Option.bind_eq_some_iff.mp h
    obtain ⟨_, -, h⟩ := Option.bind_eq_some_iff.mp h
    obtain ⟨_, -, h⟩ := Option.bind_eq_some_iff.mp h
    split at h
    · cases h
      have dash : f.skip ((f.skip more).drop 1) <:+ f.skip more :=
        (f.skip_suffix _).trans (List.drop_suffix 1 _)
      exact ((readAtom_suffix hlast).trans dash).trans after
    · cases h
  · split at h
    · obtain ⟨_, -, heq⟩ := Option.map_eq_some_iff.mp h
      cases heq
      exact after
    · cases h
      exact after
    · cases h

theorem readBrackets_suffix : ∀ {fuel : Nat} {b : Bracket} {outer : List Bracket} {cs rest : List Char}
    {m : Member}, readBrackets f fuel b outer cs = some (m, rest) → rest <:+ cs
  | 0, _, _, _, _, _, h => by cases h
  | fuel + 1, b, outer, cs, rest, m, h => by
    rw [readBrackets] at h
    split at h
    · cases h
    · rename_i hskip
      split at h
      · rename_i hclass
        obtain ⟨_, -, h⟩ := Option.bind_eq_some_iff.mp h
        exact ((readBrackets_suffix h).trans (scanAsciiClass_suffix hclass)).trans
          (Flags.suffix_of_skip hskip)
      · exact ((readBrackets_suffix h).trans (openBracket_suffix f _)).trans
          (Flags.suffix_of_skip hskip)
    · rename_i hskip
      obtain ⟨closed, -, h⟩ := Option.bind_eq_some_iff.mp h
      cases outer with
      | nil =>
        cases h
        exact Flags.suffix_of_skip hskip
      | cons b outer => exact (readBrackets_suffix h).trans (Flags.suffix_of_skip hskip)
    · rename_i hskip
      exact ((readBrackets_suffix h).trans (List.suffix_cons _ _)).trans (Flags.suffix_of_skip hskip)
    · rename_i hskip
      exact ((readBrackets_suffix h).trans (List.suffix_cons _ _)).trans (Flags.suffix_of_skip hskip)
    · rename_i hskip
      exact ((readBrackets_suffix h).trans (List.suffix_cons _ _)).trans (Flags.suffix_of_skip hskip)
    · obtain ⟨⟨member, rs⟩, hmember, h⟩ := Option.bind_eq_some_iff.mp h
      exact ((readBrackets_suffix h).trans (readMember_suffix hmember)).trans (f.skip_suffix cs)

theorem readBracket_suffix {m : Member} (h : readBracket f cs = some (m, rest)) : rest <:+ cs :=
  (readBrackets_suffix h).trans (openBracket_suffix f cs)

/-! ## 4. Steps -/

namespace Reader

variable {r r' : Reader}

theorem scanDigits_suffix : ∀ (n : Nat) (cs : List Char), (scanDigits f n cs).2 <:+ cs
  | 0, _ => List.suffix_refl _
  | _ + 1, [] => List.suffix_refl _
  | n + 1, c :: cs => by
    rw [scanDigits]
    split
    · exact ((scanDigits_suffix n _).trans (f.skip_suffix cs)).trans (List.suffix_cons c cs)
    · exact List.suffix_refl _

theorem skipWhite_suffix : ∀ (n : Nat) (cs : List Char), skipWhite f n cs <:+ cs
  | 0, _ => List.suffix_refl _
  | _ + 1, [] => List.suffix_refl _
  | n + 1, c :: cs => by
    rw [skipWhite]
    split
    · exact ((skipWhite_suffix n _).trans (f.skip_suffix cs)).trans (List.suffix_cons c cs)
    · exact List.suffix_refl _

theorem readCount_suffix (f : Flags) (cs : List Char) : (readCount f cs).2 <:+ cs :=
  ((skipWhite_suffix _ _).trans (scanDigits_suffix _ _)).trans (List.dropWhile_suffix _)

theorem most?_suffix {min : Nat} {max : Option Nat} (h : most? f min cs = some (max, rest)) :
    rest <:+ cs := by
  unfold most? at h
  split at h
  · rename_i more
    refine List.IsSuffix.trans ?_ ((f.skip_suffix more).trans (List.suffix_cons _ more))
    split at h
    · rename_i hskip
      cases h
      rw [hskip]
    · obtain ⟨_, -, heq⟩ := Option.map_eq_some_iff.mp h
      cases heq
      exact readCount_suffix f _
  · cases h
    exact List.suffix_refl _

theorem scanLazy_suffix (cs : List Char) : (scanLazy cs).2 <:+ cs := by
  unfold scanLazy
  split
  · exact List.suffix_cons _ _
  · exact List.suffix_refl _

theorem endCounted_suffix {min : Nat} {max : Option Nat}
    (h : r.endCounted min max cs = some (r', rest)) : rest <:+ cs := by
  unfold endCounted at h
  split at h
  · rename_i more
    split at h
    · obtain ⟨_, -, heq⟩ := Option.bind_eq_some_iff.mp h
      cases heq
      exact ((scanLazy_suffix _).trans (r.flags.skip_suffix more)).trans (List.suffix_cons _ more)
    · cases h
  · cases h

theorem readCounted_suffix (h : r.readCounted cs = some (r', rest)) : rest <:+ cs := by
  rw [readCounted_eq] at h
  obtain ⟨_, -, h⟩ := Option.bind_eq_some_iff.mp h
  obtain ⟨⟨max, rs⟩, hmost, hend⟩ := Option.bind_eq_some_iff.mp h
  have counted := (endCounted_suffix hend).trans (most?_suffix hmost)
  exact (counted.trans (readCount_suffix _ _)).trans (r.flags.skip_suffix cs)

theorem openNamed_suffix (h : r.openNamed cs = some (r', rest)) : rest <:+ cs := by
  unfold openNamed at h
  dsimp only at h
  split at h
  · cases h
  · rename_i hdrop
    split at h
    · cases h
      have here : _ :: rest <:+ cs := hdrop ▸ List.dropWhile_suffix _
      exact (List.suffix_cons _ rest).trans here
    · cases h

theorem afterSwitches_suffix {read : Flags × List Char × List Char}
    (h : r.afterSwitches read = some (r', rest)) : rest <:+ read.2.2 := by
  unfold afterSwitches at h
  split at h
  · split at h
    · cases h
    · cases h
      exact List.suffix_cons _ _
  · cases h
    exact List.drop_suffix 1 _

theorem readOpening_suffix (h : r.readOpening cs = some (r', rest)) : rest <:+ cs := by
  have opens := opens_of_readOpening h
  refine List.IsSuffix.trans ?_ (r.flags.skip_suffix cs)
  generalize r.flags.skip cs = found at opens
  cases opens with
  | capture => exact List.suffix_refl _
  | @switches c cs rest r' read unnamed here done =>
    have switches : read.2.2 <:+ c :: cs := Flags.readSwitches_suffix here
    exact ((afterSwitches_suffix done).trans switches).trans (List.suffix_cons _ _)
  | named unlooked here =>
    exact ((openNamed_suffix here).trans (List.suffix_cons _ _)).trans (List.suffix_cons _ _)
  | longNamed here =>
    exact (((openNamed_suffix here).trans (List.suffix_cons _ _)).trans (List.suffix_cons _ _)).trans
      (List.suffix_cons _ _)

/-- **A step leaves an end** of what follows its first character. -/
theorem step_suffix {c : Char} (h : r.step c cs = some (r', rest)) : rest <:+ cs := by
  have single {r'' : Reader} (h : some (r'', cs) = some (r', rest)) : rest <:+ cs := by
    cases h
    exact List.suffix_refl _
  have chosen {α : Type} {o : Option α} {g : α → Reader}
      (h : o.map (fun a => (g a, cs)) = some (r', rest)) : rest <:+ cs := by
    obtain ⟨a, -, heq⟩ := Option.map_eq_some_iff.mp h
    exact single (congrArg some heq)
  have repeated {min : Nat} {max : Option Nat}
      (h : (r.repeatLast min max (scanLazy cs).1).map (fun r => (r, (scanLazy cs).2)) =
        some (r', rest)) : rest <:+ cs := by
    obtain ⟨_, -, heq⟩ := Option.map_eq_some_iff.mp h
    cases heq
    exact scanLazy_suffix cs
  unfold step at h
  dsimp only at h
  split at h
  · exact readOpening_suffix h
  · exact chosen h
  · exact single h
  · obtain ⟨⟨m, rs⟩, hbracket, heq⟩ := Option.bind_eq_some_iff.mp h
    cases heq
    exact readBracket_suffix hbracket
  · exact repeated h
  · exact repeated h
  · exact repeated h
  · exact readCounted_suffix h
  · obtain ⟨⟨atom, rs⟩, hatom, h⟩ := Option.bind_eq_some_iff.mp h
    obtain ⟨_, -, heq⟩ := Option.bind_eq_some_iff.mp h
    cases heq
    exact readEscape_suffix hatom
  · exact chosen h
  · exact single h
  · exact single h
  · exact single h

end Reader

end DocTables.Regex
