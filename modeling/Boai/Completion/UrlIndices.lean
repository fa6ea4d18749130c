import Boai.Completion.Url

/-!
# `ParseUrl` on plain indices

In the source `npos` is an ordinary `std::size_t`: it is what a failed search
returns, `host_end` can be equal to it, and `host_end - host_start` is then a
large count.  This module follows the source to the letter.  The indices are
numbers, `npos` is some number above the size of every string, and the two ways
to go wrong are those of `parseUrl?`.
-/

namespace Boai.Completion

/-- `text.find(pattern, start)`, which is `npos` for a failed search. -/
def findAt (npos : Nat) (text pattern : List Char) (start : Nat) : Nat :=
  (find text pattern start).getD npos

/-- `ParseUrl`, statement by statement. -/
def parseUrlAt (npos : Nat) (url : String) : Option ParsedUrl := do
  let text := url.toList
  let schemeEnd := findAt npos text "://".toList 0
  if schemeEnd = npos then
    some { scheme := "https", host := url, port := "443", target := "/" }
  else
    let scheme ← substr text 0 (some schemeEnd)
    let port := if scheme = "https" then "443" else "80"
    let hostStart := schemeEnd + 3
    let pathStart := findAt npos text ['/'] hostStart
    let portSep := findAt npos text [':'] hostStart
    let hostEnd := if portSep ≠ npos then portSep else pathStart
    let host ← substr text hostStart (some (← sizeSub hostEnd hostStart))
    let port ←
      if portSep ≠ npos ∧ (pathStart = npos ∨ portSep < pathStart) then do
        let portEnd := if pathStart ≠ npos then pathStart else text.length
        substr text (portSep + 1) (some (← sizeSub (← sizeSub portEnd portSep) 1))
      else
        some port
    let target ← if pathStart ≠ npos then substr text pathStart (some npos) else some "/"
    some { scheme, host, port, target }

variable {npos : Nat} {text pattern : List Char} {start position : Nat}

theorem findAt_eq_npos (missing : find text pattern start = none) :
    findAt npos text pattern start = npos := by
  rw [findAt, missing, Option.getD_none]

theorem findAt_eq (found : find text pattern start = some position) :
    findAt npos text pattern start = position := by
  rw [findAt, found, Option.getD_some]

/-- A position in the text is never mistaken for `npos`. -/
theorem ne_npos (fits : text.length < npos) (found : find text pattern start = some position) :
    position ≠ npos := by
  have bounds := find_bounds found
  omega

/-- A count that reaches the end of the text asks for everything that is left. -/
theorem substr_of_reaches {count : Nat} (reaches : text.length ≤ position + count) :
    substr text position (some count) = substr text position none := by
  simp only [substr]
  rw [List.take_of_length_le (by rw [List.length_drop]; omega)]

/-- Both readings of the source agree on every string. -/
theorem parseUrlAt_eq {url : String} (fits : url.toList.length < npos) :
    parseUrlAt npos url = parseUrl? url := by
  simp only [parseUrlAt, parseUrl?]
  cases schemeFound : find url.toList "://".toList 0 with
  | none => simp only [findAt_eq_npos schemeFound, if_true]
  | some schemeEnd =>
      have hostInside : schemeEnd + 3 ≤ url.toList.length := (find_bounds schemeFound).2
      simp only [findAt_eq schemeFound, ne_npos fits schemeFound, if_false]
      cases pathFound : find url.toList ['/'] (schemeEnd + 3) with
      | none =>
          simp only [findAt_eq_npos pathFound, ne_eq, not_true_eq_false, if_false, true_or,
            and_true]
          cases portFound : find url.toList [':'] (schemeEnd + 3) with
          | none =>
              have all : substr url.toList (schemeEnd + 3) (some (npos - (schemeEnd + 3))) =
                  substr url.toList (schemeEnd + 3) none := substr_of_reaches (by omega)
              simp only [findAt_eq_npos portFound, not_true_eq_false, if_false,
                sizeSub_of_le (show schemeEnd + 3 ≤ npos by omega)]
              simp [all]
          | some portSep =>
              simp [findAt_eq portFound, ne_npos fits portFound]
      | some pathStart =>
          have rest : substr url.toList pathStart (some npos) = substr url.toList pathStart none :=
            substr_of_reaches (by omega)
          simp only [findAt_eq pathFound, ne_npos fits pathFound, ne_eq, not_false_eq_true, if_true,
            false_or, rest]
          cases portFound : find url.toList [':'] (schemeEnd + 3) with
          | none => simp [findAt_eq_npos portFound]
          | some portSep =>
              by_cases before : portSep < pathStart
              · simp [findAt_eq portFound, ne_npos fits portFound, before]
              · simp [findAt_eq portFound, ne_npos fits portFound, before]

/-- `ParseUrl` returns, with no substring past the end and no wrapped subtraction. -/
theorem parseUrlAt_eq_some {url : String} (fits : url.toList.length < npos) :
    parseUrlAt npos url = some (parseUrl url) := by
  rw [parseUrlAt_eq fits, parseUrl, Option.some_get]

end Boai.Completion
