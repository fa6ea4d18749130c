import Mathlib.Data.List.DropRight

/-!
# URL helpers

`ParseUrl` works with indices into the URL.  The model keeps the two ways in
which index arithmetic can go wrong: a substring that starts past the end, which
throws, and an unsigned subtraction that wraps.  Either makes the model return
`none`, and `parseUrl_isSome` shows that neither ever happens.

`npos`, the result of a failed search, is `none`.
-/

namespace Boai.Completion

/-- Position of the first occurrence of `pattern` in the remaining text, which
starts at position `index`. -/
def findFrom (pattern : List Char) : List Char → Nat → Option Nat
  | [], index => if pattern.isPrefixOf [] then some index else none
  | character :: rest, index =>
      if pattern.isPrefixOf (character :: rest) then some index
      else findFrom pattern rest (index + 1)

/-- `text.find(pattern, start)`. -/
def find (text pattern : List Char) (start : Nat) : Option Nat :=
  if start ≤ text.length then findFrom pattern (text.drop start) start else none

/-- `text.substr(position, count)`, where a `count` of `npos` means the rest. -/
def substr (text : List Char) (position : Nat) (count : Option Nat) : Option String :=
  if position ≤ text.length then
    match count with
    | none => some (String.ofList (text.drop position))
    | some count => some (String.ofList ((text.drop position).take count))
  else
    none

/-- `left - right` on `std::size_t`, provided it does not wrap. -/
def sizeSub (left right : Nat) : Option Nat :=
  if right ≤ left then some (left - right) else none

structure ParsedUrl where
  scheme : String
  host : String
  port : String
  target : String
  deriving DecidableEq, Repr

/-- `ParseUrl`. -/
def parseUrl? (url : String) : Option ParsedUrl := do
  let text := url.toList
  match find text "://".toList 0 with
  | none => some { scheme := "https", host := url, port := "443", target := "/" }
  | some schemeEnd =>
      let scheme ← substr text 0 (some schemeEnd)
      let port := if scheme = "https" then "443" else "80"
      let hostStart := schemeEnd + 3
      let pathStart := find text ['/'] hostStart
      let portSep := find text [':'] hostStart
      let hostEnd := if portSep.isSome then portSep else pathStart
      let host ← match hostEnd with
        -- `npos - host_start` cannot wrap and asks for everything that is left.
        | none => substr text hostStart none
        | some hostEnd => do substr text hostStart (some (← sizeSub hostEnd hostStart))
      let port ← match portSep, pathStart with
        | some portSep, none => do
            substr text (portSep + 1) (some (← sizeSub (← sizeSub text.length portSep) 1))
        | some portSep, some pathStart =>
            if portSep < pathStart then do
              substr text (portSep + 1) (some (← sizeSub (← sizeSub pathStart portSep) 1))
            else
              some port
        | none, _ => some port
      let target ← match pathStart with
        | some pathStart => substr text pathStart none
        | none => some "/"
      some { scheme, host, port, target }

theorem findFrom_bounds {pattern : List Char} {rest : List Char} {index position : Nat}
    (found : findFrom pattern rest index = some position) :
    index ≤ position ∧ position + pattern.length ≤ index + rest.length := by
  induction rest generalizing index with
  | nil =>
      simp only [findFrom] at found
      split at found
      next matched =>
        cases found
        have short := (List.isPrefixOf_iff_prefix.mp matched).length_le
        simp only [List.length_nil] at short ⊢
        omega
      next => cases found
  | cons character rest ih =>
      simp only [findFrom] at found
      split at found
      next matched =>
        cases found
        have short := (List.isPrefixOf_iff_prefix.mp matched).length_le
        omega
      next =>
        have later := ih found
        simp only [List.length_cons]
        omega

/-- A found occurrence lies inside the searched part of the text. -/
theorem find_bounds {text pattern : List Char} {start position : Nat}
    (found : find text pattern start = some position) :
    start ≤ position ∧ position + pattern.length ≤ text.length := by
  simp only [find] at found
  split at found
  next inside =>
    have bounds := findFrom_bounds found
    simp only [List.length_drop] at bounds
    omega
  next => cases found

theorem exists_substr {text : List Char} (position : Nat) (count : Option Nat)
    (inside : position ≤ text.length) : ∃ part, substr text position count = some part := by
  cases count <;> simp [substr, inside]

theorem sizeSub_of_le {left right : Nat} (le : right ≤ left) :
    sizeSub left right = some (left - right) := by
  simp [sizeSub, le]

/-- No substring of `ParseUrl` starts past the end and no subtraction wraps. -/
theorem parseUrl_isSome (url : String) : (parseUrl? url).isSome := by
  simp only [parseUrl?]
  cases schemeFound : find url.toList "://".toList 0 with
  | none => rfl
  | some schemeEnd =>
      have schemeBounds := find_bounds schemeFound
      have hostInside : schemeEnd + 3 ≤ url.toList.length := schemeBounds.2
      rcases exists_substr 0 (some schemeEnd) (Nat.zero_le url.toList.length) with
        ⟨scheme, schemeEq⟩
      simp only [schemeEq, Option.bind_eq_bind, Option.bind_some]
      cases pathFound : find url.toList ['/'] (schemeEnd + 3) with
      | none =>
          cases portFound : find url.toList [':'] (schemeEnd + 3) with
          | none =>
              rcases exists_substr (schemeEnd + 3) none hostInside with ⟨host, hostEq⟩
              simp [hostEq]
          | some portSep =>
              have portBounds := find_bounds portFound
              simp only [List.length_singleton] at portBounds
              rcases exists_substr (schemeEnd + 3) (some (portSep - (schemeEnd + 3))) hostInside
                with ⟨host, hostEq⟩
              rcases exists_substr (portSep + 1) (some (url.toList.length - portSep - 1))
                portBounds.2 with ⟨port, portEq⟩
              simp [sizeSub_of_le portBounds.1, hostEq,
                sizeSub_of_le (show portSep ≤ url.toList.length by omega),
                sizeSub_of_le (show 1 ≤ url.toList.length - portSep by omega), portEq]
      | some pathStart =>
          have pathBounds := find_bounds pathFound
          simp only [List.length_singleton] at pathBounds
          rcases exists_substr pathStart none (show pathStart ≤ url.toList.length by omega) with
            ⟨target, targetEq⟩
          cases portFound : find url.toList [':'] (schemeEnd + 3) with
          | none =>
              rcases exists_substr (schemeEnd + 3) (some (pathStart - (schemeEnd + 3))) hostInside
                with ⟨host, hostEq⟩
              simp [sizeSub_of_le pathBounds.1, hostEq, targetEq]
          | some portSep =>
              have portBounds := find_bounds portFound
              simp only [List.length_singleton] at portBounds
              rcases exists_substr (schemeEnd + 3) (some (portSep - (schemeEnd + 3))) hostInside
                with ⟨host, hostEq⟩
              by_cases before : portSep < pathStart
              · rcases exists_substr (portSep + 1) (some (pathStart - portSep - 1)) portBounds.2
                  with ⟨port, portEq⟩
                simp [sizeSub_of_le portBounds.1, hostEq, before, targetEq,
                  sizeSub_of_le (Nat.le_of_lt before),
                  sizeSub_of_le (show 1 ≤ pathStart - portSep by omega), portEq]
              · simp [sizeSub_of_le portBounds.1, hostEq, before, targetEq]

/-- `ParseUrl`, which always returns. -/
def parseUrl (url : String) : ParsedUrl := (parseUrl? url).get (parseUrl_isSome url)

/-- `BuildCompletionsUrl`: the loop removes every trailing slash. -/
def buildCompletionsUrl (baseUrl : String) : String :=
  String.ofList (baseUrl.toList.rdropWhile (· = '/')) ++ "/chat/completions"

example : parseUrl (buildCompletionsUrl "http://127.0.0.1:8080/v1/") =
    { scheme := "http", host := "127.0.0.1", port := "8080",
      target := "/v1/chat/completions" } := by decide

end Boai.Completion
