/-
# What is shown of a password

A connection text is cut three times, each time at the first place of a mark (`Text.cut?_first`).
So the user ends at the first colon, and the credentials end at the first `@` behind the scheme: a
password may hold colons, but one that holds an `@` is cut there, and what follows is shown as if it
were part of the host (`redact_cut`).  The password is hidden as a whole, and two passwords look the
same, exactly as long as there is no `@` in them (`redact_hides`).
-/
import DocTables.Connections.Redaction
import Mathlib.Data.List.Infix

namespace DocTables

/-! ## 1. Cuts -/

namespace Text

/-- A text is cut at the first place of a mark: where no mark ends before this one does. -/
theorem cut?_first (init : List Char) (last : Char) (after : List Char) :
    ∀ {before : List Char}, ¬init ++ [last] <:+: before ++ init →
      cut? (init ++ [last]) (before ++ (init ++ [last]) ++ after) = some (before, after)
  | [], _ => by
    cases hmark : init ++ [last] with
    | nil => simp at hmark
    | cons c rest =>
      simp [cut?]
  | c :: before, h => by
    have hnot : ¬init ++ [last] <+: c :: (before ++ (init ++ [last]) ++ after) := by
      intro hprefix
      have hwhole : c :: (before ++ (init ++ [last]) ++ after) =
          (c :: before ++ init) ++ last :: after := by simp
      have hlength : (init ++ [last]).length ≤ (c :: before ++ init).length := by
        simp only [List.length_append, List.length_cons, List.length_nil]
        omega
      rw [hwhole] at hprefix
      exact h (List.prefix_of_prefix_length_le hprefix (List.prefix_append _ _) hlength).isInfix
    have hrest : ¬init ++ [last] <:+: before ++ init := fun hin => h (List.infix_cons hin)
    have hcut := cut?_first init last after hrest
    simp only [List.cons_append]
    rw [cut?, if_neg (by simpa using hnot), hcut]
    rfl

/-- A mark of one character is looked for as that character. -/
theorem cut?_char {mark : Char} {before : List Char} (h : mark ∉ before) (after : List Char) :
    cut? [mark] (before ++ mark :: after) = some (before, after) := by
  have hnot : ¬[] ++ [mark] <:+: before ++ [] := by
    rw [List.nil_append, List.append_nil]
    exact fun hin => h (hin.subset (List.mem_singleton_self mark))
  simpa using cut?_first [] mark after hnot

end Text

namespace Connections

/-! ## 2. Characters -/

/-- The mark behind a scheme cannot begin in the scheme and end in the mark. -/
theorem not_isInfix_scheme {scheme : List Char} (h : ¬"://".toList <:+: scheme) :
    ¬"://".toList <:+: scheme ++ [':', '/'] := by
  rw [← List.reverse_infix] at h ⊢
  simpa [List.infix_cons_iff, List.cons_prefix_cons] using h

/-- What stands between the colon behind the user and the next `@` is hidden. -/
theorem redactChars_cut {scheme user secret : List Char} (hscheme : ¬"://".toList <:+: scheme)
    (huser : ':' ∉ user ∧ '@' ∉ user) (hsecret : '@' ∉ secret) (shown : List Char) :
    redactChars (scheme ++ "://".toList ++ user ++ ':' :: secret ++ '@' :: shown) =
      scheme ++ "://".toList ++ user ++ ':' :: mask ++ '@' :: shown := by
  have hfirst : Text.cut? "://".toList
      (scheme ++ "://".toList ++ (user ++ ':' :: secret ++ '@' :: shown)) =
        some (scheme, user ++ ':' :: secret ++ '@' :: shown) :=
    Text.cut?_first [':', '/'] '/' _ (not_isInfix_scheme hscheme)
  have hcredentials : '@' ∉ user ++ ':' :: secret := by
    simp [huser.2, hsecret]
  have hsecond := Text.cut?_char hcredentials shown
  have hthird := Text.cut?_char huser.1 secret
  simp only [List.append_assoc] at hfirst hsecond ⊢
  rw [redactChars, hfirst]
  simp only [Option.bind_eq_bind, Option.bind_some, hsecond, hthird, List.append_assoc]
  rfl

/-! ## 3. Texts -/

/-- **What is hidden of a password** is its part up to the first `@`; the rest of it is shown. -/
theorem redact_cut {scheme user : String} (hscheme : ¬"://".toList <:+: scheme.toList)
    (huser : ':' ∉ user.toList ∧ '@' ∉ user.toList) {hidden : String} (hhidden : '@' ∉ hidden.toList)
    (shown : String) :
    redact (scheme ++ "://" ++ user ++ ":" ++ hidden ++ "@" ++ shown) =
      scheme ++ "://" ++ user ++ ":****@" ++ shown := by
  have hchars := redactChars_cut hscheme huser hhidden shown.toList
  rw [redact]
  apply String.toList_inj.mp
  simpa [mask] using hchars

/-- A text with an `@` is cut at the first one. -/
theorem exists_first_at {password : String} (h : '@' ∈ password.toList) :
    ∃ hidden rest, password = hidden ++ "@" ++ rest ∧ '@' ∉ hidden.toList := by
  obtain ⟨hidden, rest, hpassword, hhidden⟩ := List.eq_append_cons_of_mem h
  refine ⟨String.ofList hidden, String.ofList rest, ?_, by simpa using hhidden⟩
  apply String.toList_inj.mp
  simpa using hpassword

/-- **The password is hidden** as a whole exactly if there is no `@` in it; then the text that is
shown does not depend on it.  Of a password with an `@` everything behind the first one is shown. -/
theorem redact_hides (scheme user password host : String)
    (hscheme : ¬"://".toList <:+: scheme.toList)
    (huser : ':' ∉ user.toList ∧ '@' ∉ user.toList) :
    (redact (scheme ++ "://" ++ user ++ ":" ++ password ++ "@" ++ host) =
        scheme ++ "://" ++ user ++ ":****@" ++ host ↔ '@' ∉ password.toList) ∧
      (∀ hidden rest, password = hidden ++ "@" ++ rest → '@' ∉ hidden.toList →
        redact (scheme ++ "://" ++ user ++ ":" ++ password ++ "@" ++ host) =
          scheme ++ "://" ++ user ++ ":****@" ++ rest ++ "@" ++ host) ∧
      (∀ other, '@' ∉ password.toList → '@' ∉ other.toList →
        redact (scheme ++ "://" ++ user ++ ":" ++ password ++ "@" ++ host) =
          redact (scheme ++ "://" ++ user ++ ":" ++ other ++ "@" ++ host)) := by
  have hidden_whole {secret : String} (h : '@' ∉ secret.toList) :=
    redact_cut hscheme huser h host
  have hidden_part {hidden : String} (rest : String) (h : '@' ∉ hidden.toList) :
      redact (scheme ++ "://" ++ user ++ ":" ++ (hidden ++ "@" ++ rest) ++ "@" ++ host) =
        scheme ++ "://" ++ user ++ ":****@" ++ rest ++ "@" ++ host := by
    have hcut := redact_cut hscheme huser h (rest ++ "@" ++ host)
    simpa only [String.append_assoc] using hcut
  refine ⟨⟨fun h hat => ?_, hidden_whole⟩, ?_, fun other h hother => ?_⟩
  · obtain ⟨hidden, rest, hpassword, hhidden⟩ := exists_first_at hat
    rw [hpassword, hidden_part rest hhidden] at h
    -- What is shown behind the asterisks is longer than the host.
    have hlength := congrArg String.length h
    simp only [String.length_append] at hlength
    have hat : "@".length = 1 := rfl
    omega
  · rintro hidden rest rfl h
    exact hidden_part rest h
  · rw [hidden_whole h, hidden_whole hother]

/-- Colons in a password are hidden with it, and slashes and an `@` behind the host do no harm. -/
theorem redact_hides_colons :
    (¬"://".toList <:+: "mongodb".toList) ∧ (':' ∉ "admin".toList ∧ '@' ∉ "admin".toList) ∧
      '@' ∉ "se:cr:et".toList ∧
      redact ("mongodb" ++ "://" ++ "admin" ++ ":" ++ "se:cr:et" ++ "@" ++ "host:27017/@b") =
        "mongodb" ++ "://" ++ "admin" ++ ":****@" ++ "host:27017/@b" := by
  have hscheme : ¬"://".toList <:+: "mongodb".toList := by decide
  have huser : ':' ∉ "admin".toList ∧ '@' ∉ "admin".toList := by decide
  have hpassword : '@' ∉ "se:cr:et".toList := by decide
  exact ⟨hscheme, huser, hpassword,
    (redact_hides "mongodb" "admin" "se:cr:et" "host:27017/@b" hscheme huser).1.mpr hpassword⟩

/-- The end of a password with an `@` is shown. -/
theorem redact_shows_rest :
    (¬"://".toList <:+: "mongodb".toList) ∧
      (':' ∉ "admin".toList ∧ '@' ∉ "admin".toList ∧ '/' ∉ "admin".toList) ∧ "p@ss" ≠ "" ∧
      '/' ∉ "p@ss".toList ∧ '@' ∉ "host".toList ∧
      redact ("mongodb" ++ "://" ++ "admin" ++ ":" ++ "p@ss" ++ "@" ++ "host") ≠
        "mongodb" ++ "://" ++ "admin" ++ ":****@" ++ "host" := by
  decide

end Connections

end DocTables
