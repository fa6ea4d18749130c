import Boai.Lib.FirstOccurrence
import Boai.Completion.Url

/-!
# A URL taken apart

The searches of `ParseUrl` in terms of the parts of a URL.  A URL with a scheme is
`scheme://authority` followed by a path that is empty or starts with a slash.
The port is read correctly wherever there is one; the end of the host is not,
since a colon anywhere in the path is taken for the one before a port.
-/

namespace Boai.Completion

open FirstOccurrence

/-! ## Searches -/

theorem findFrom_of_first {pattern before : List Char} (nonempty : pattern ≠ [])
    (first : OccursFirst pattern before) (after : List Char) (index : Nat) :
    findFrom pattern (before ++ pattern ++ after) index = some (index + before.length) := by
  induction before generalizing index with
  | nil =>
      rw [List.nil_append]
      have isPrefix : pattern.isPrefixOf (pattern ++ after) = true :=
        List.isPrefixOf_iff_prefix.mpr (List.prefix_append pattern after)
      cases text : pattern ++ after with
      | nil => exact absurd (List.append_eq_nil_iff.mp text).1 nonempty
      | cons character rest =>
          rw [text] at isPrefix
          simp only [findFrom, isPrefix, if_true, List.length_nil, Nat.add_zero]
  | cons character before ih =>
      have notPrefix : pattern.isPrefixOf (character :: (before ++ pattern ++ after)) = false := by
        rw [← Bool.not_eq_true, List.isPrefixOf_iff_prefix]
        exact first.not_prefix after
      simp only [List.cons_append, findFrom, notPrefix, Bool.false_eq_true, if_false]
      rw [ih first.tail, List.length_cons]
      congr 1
      omega

theorem findFrom_eq_none {pattern text : List Char} (absent : ¬pattern <:+: text) (index : Nat) :
    findFrom pattern text index = none := by
  induction text generalizing index with
  | nil =>
      have notPrefix : pattern.isPrefixOf [] = false := by
        rw [← Bool.not_eq_true, List.isPrefixOf_iff_prefix]
        exact fun isPrefix => absent isPrefix.isInfix
      simp only [findFrom, notPrefix, Bool.false_eq_true, if_false]
  | cons character rest ih =>
      rw [List.infix_cons_iff, not_or] at absent
      have notPrefix : pattern.isPrefixOf (character :: rest) = false := by
        rw [← Bool.not_eq_true, List.isPrefixOf_iff_prefix]
        exact absent.1
      simp only [findFrom, notPrefix, Bool.false_eq_true, if_false]
      exact ih absent.2 (index + 1)

/-- A search that starts behind a front part. -/
theorem find_append (front rest pattern : List Char) :
    find (front ++ rest) pattern front.length = findFrom pattern rest front.length := by
  have inside : front.length ≤ (front ++ rest).length := by
    rw [List.length_append]
    exact Nat.le_add_right _ _
  simp only [find, inside, if_true, List.drop_left]

theorem find_character {front before : List Char} {character : Char}
    (absent : character ∉ before) (after : List Char) :
    find (front ++ (before ++ character :: after)) [character] front.length =
      some (front.length + before.length) := by
  rw [find_append]
  have found := findFrom_of_first (List.cons_ne_nil character [])
    (occursFirst_singleton absent) after front.length
  rw [List.append_assoc, List.singleton_append] at found
  exact found

theorem find_character_eq_none {front rest : List Char} {character : Char}
    (absent : character ∉ rest) : find (front ++ rest) [character] front.length = none := by
  rw [find_append]
  apply findFrom_eq_none
  intro inside
  exact absent (inside.subset (List.mem_singleton_self character))

/-! ## Substrings -/

theorem substr_rest (front rest : List Char) :
    substr (front ++ rest) front.length none = some (String.ofList rest) := by
  have inside : front.length ≤ (front ++ rest).length := by
    rw [List.length_append]
    exact Nat.le_add_right _ _
  simp only [substr, inside, if_true, List.drop_left]

theorem substr_middle (front middle back : List Char) :
    substr (front ++ (middle ++ back)) front.length (some middle.length) =
      some (String.ofList middle) := by
  have inside : front.length ≤ (front ++ (middle ++ back)).length := by
    rw [List.length_append]
    exact Nat.le_add_right _ _
  simp only [substr, inside, if_true, List.drop_left, List.take_left]

/-! ## The parts of a URL -/

/-- `url` is `scheme://rest`, and no `://` comes earlier. -/
structure HasScheme (url : String) (scheme rest : List Char) : Prop where
  text : url.toList = scheme ++ "://".toList ++ rest
  first : OccursFirst "://".toList scheme

/-- The port of a URL without one. -/
def defaultPort (scheme : String) : String := if scheme = "https" then "443" else "80"

/-- A path is empty or starts with a slash. -/
inductive Rooted : List Char → Prop where
  | empty : Rooted []
  | slash (rest : List Char) : Rooted ('/' :: rest)

/-- The target for a path. -/
def targetOf (path : List Char) : String := if path = [] then "/" else String.ofList path

/-- The part of a path that is read as part of the host: with a colon in the path,
all that precedes the first one. -/
def hostOverrun (path : List Char) : List Char :=
  if ':' ∈ path then path.takeWhile (· ≠ ':') else []

/-- The text before its first slash. -/
theorem not_mem_takeWhile (text : List Char) : '/' ∉ text.takeWhile (· ≠ '/') := by
  intro member
  have kept := List.mem_takeWhile_imp member
  simp at kept

/-- The rest of a text from its first slash on. -/
theorem rooted_dropWhile (text : List Char) : Rooted (text.dropWhile (· ≠ '/')) := by
  cases path : text.dropWhile (· ≠ '/') with
  | nil => exact .empty
  | cons character tail =>
      have stopped := List.head?_dropWhile_not (fun character => decide (character ≠ '/')) text
      rw [path] at stopped
      have isSlash : character = '/' := by simpa using stopped
      rw [isSlash]
      exact .slash tail

theorem slash_prefix_targetOf {path : List Char} (rooted : Rooted path) :
    ['/'] <+: (targetOf path).toList := by
  cases rooted with
  | empty => exact List.prefix_rfl
  | slash rest =>
      rw [targetOf, if_neg (List.cons_ne_nil '/' rest), String.toList_ofList]
      exact List.prefix_append ['/'] rest

theorem parseUrl_of_eq_some {url : String} {parsed : ParsedUrl}
    (found : parseUrl? url = some parsed) : parseUrl url = parsed := by
  simp only [parseUrl, found, Option.get_some]

theorem sizeSub_add_left (left count : Nat) : sizeSub (left + count) left = some count := by
  rw [sizeSub_of_le (Nat.le_add_right left count), Nat.add_sub_cancel_left]

/-- The length of a port between its separator and its end. -/
theorem sizeSub_port (portSep count : Nat) :
    (sizeSub (portSep + 1 + count) portSep).bind (fun width => sizeSub width 1) = some count := by
  rw [Nat.add_assoc, sizeSub_add_left, Option.bind_some, sizeSub_add_left]

/-- Where the host starts. -/
theorem length_front (scheme : List Char) :
    (scheme ++ "://".toList).length = scheme.length + 3 := by
  rw [List.length_append]
  rfl

section Parts

variable {url : String} {scheme rest : List Char}

theorem HasScheme.find_scheme (parts : HasScheme url scheme rest) :
    find url.toList "://".toList 0 = some scheme.length := by
  have found := findFrom_of_first (by decide) parts.first rest 0
  rw [← parts.text, Nat.zero_add] at found
  simpa only [find, Nat.zero_le, if_true, List.drop_zero] using found

theorem HasScheme.substr_scheme (parts : HasScheme url scheme rest) :
    substr url.toList 0 (some scheme.length) = some (String.ofList scheme) := by
  rw [parts.text, List.append_assoc]
  exact substr_middle [] scheme ("://".toList ++ rest)

theorem HasScheme.length_text (parts : HasScheme url scheme rest) :
    url.toList.length = scheme.length + 3 + rest.length := by
  rw [parts.text, List.length_append, length_front]

/-- A search for a character behind the scheme. -/
theorem HasScheme.find_behind {before after : List Char} {character : Char}
    (parts : HasScheme url scheme rest) (isRest : rest = before ++ character :: after)
    (absent : character ∉ before) :
    find url.toList [character] (scheme.length + 3) =
      some (scheme.length + 3 + before.length) := by
  rw [parts.text, isRest, ← length_front]
  exact find_character absent after

theorem HasScheme.find_behind_eq_none {character : Char} (parts : HasScheme url scheme rest)
    (absent : character ∉ rest) : find url.toList [character] (scheme.length + 3) = none := by
  rw [parts.text, ← length_front]
  exact find_character_eq_none absent

/-- A part of a URL behind the scheme. -/
theorem HasScheme.substr_behind {before middle after : List Char}
    (parts : HasScheme url scheme rest) (isRest : rest = before ++ (middle ++ after)) :
    substr url.toList (scheme.length + 3 + before.length) (some middle.length) =
      some (String.ofList middle) := by
  rw [parts.text, isRest, ← List.append_assoc, ← length_front, ← List.length_append]
  exact substr_middle _ middle after

theorem HasScheme.substr_tail {before after : List Char} (parts : HasScheme url scheme rest)
    (isRest : rest = before ++ after) :
    substr url.toList (scheme.length + 3 + before.length) none = some (String.ofList after) := by
  rw [parts.text, isRest, ← List.append_assoc, ← length_front, ← List.length_append]
  exact substr_rest _ after

theorem HasScheme.substr_host {host after : List Char} (parts : HasScheme url scheme rest)
    (isRest : rest = host ++ after) :
    substr url.toList (scheme.length + 3) (some host.length) = some (String.ofList host) :=
  @HasScheme.substr_behind _ _ _ [] _ _ parts isRest

/-- A URL with a port. -/
theorem parseUrl_of_port {host port path : List Char}
    (parts : HasScheme url scheme (host ++ ':' :: (port ++ path)))
    (hostSlash : '/' ∉ host) (hostColon : ':' ∉ host) (portSlash : '/' ∉ port)
    (rooted : Rooted path) :
    parseUrl url =
      { scheme := String.ofList scheme
        host := String.ofList host
        port := String.ofList port
        target := targetOf path } := by
  apply parseUrl_of_eq_some
  have schemeFound := parts.find_scheme
  have schemeRead := parts.substr_scheme
  have portFound := parts.find_behind rfl hostColon
  have hostRead := parts.substr_host rfl
  have authority : host ++ ':' :: (port ++ path) = (host ++ [':']) ++ (port ++ path) := by
    rw [List.append_assoc, List.singleton_append]
  have portRead := parts.substr_behind authority
  have authorityLength : scheme.length + 3 + (host ++ [':']).length =
      scheme.length + 3 + host.length + 1 := by
    rw [List.length_append, List.length_singleton, Nat.add_assoc _ host.length]
  rw [authorityLength] at portRead
  have authoritySlash : '/' ∉ host ++ ':' :: port := by
    simp [hostSlash, portSlash]
  have portWidth := sizeSub_port (scheme.length + 3 + host.length) port.length
  rcases Option.bind_eq_some_iff.mp portWidth with ⟨width, first, second⟩
  cases rooted with
  | empty =>
      have pathFound : find url.toList ['/'] (scheme.length + 3) = none := by
        apply parts.find_behind_eq_none
        rw [List.append_nil]
        exact authoritySlash
      have textLength : url.toList.length =
          scheme.length + 3 + host.length + 1 + port.length := by
        rw [parts.length_text, List.append_nil, List.length_append, List.length_cons]
        omega
      rw [← textLength] at first
      simp only [parseUrl?, schemeFound, schemeRead, pathFound, portFound, Option.isSome_some,
        if_true, sizeSub_add_left, hostRead, first, second, portRead, targetOf,
        Option.bind_eq_bind, Option.bind_some]
  | slash tail =>
      have isRest :
          host ++ ':' :: (port ++ '/' :: tail) = (host ++ ':' :: port) ++ '/' :: tail := by
        rw [List.append_assoc, List.cons_append]
      have pathStart : scheme.length + 3 + (host ++ ':' :: port).length =
          scheme.length + 3 + host.length + 1 + port.length := by
        rw [List.length_append, List.length_cons]
        omega
      have pathFound := parts.find_behind isRest authoritySlash
      have targetRead := parts.substr_tail isRest
      rw [pathStart] at pathFound targetRead
      have before : scheme.length + 3 + host.length <
          scheme.length + 3 + host.length + 1 + port.length := by omega
      simp only [parseUrl?, schemeFound, schemeRead, pathFound, portFound, Option.isSome_some,
        if_true, sizeSub_add_left, hostRead, before, first, second, portRead, targetRead, targetOf,
        Option.bind_eq_bind, Option.bind_some, reduceCtorEq, if_false]

/-- A host ends at the first colon, or at the path if there is none. -/
theorem HasScheme.host_of_noPort {authority tail : List Char}
    (parts : HasScheme url scheme (authority ++ '/' :: tail)) (noColon : ':' ∉ authority) :
    ∃ overrun, hostOverrun ('/' :: tail) = overrun ∧
      substr url.toList (scheme.length + 3) (some (authority ++ overrun).length) =
        some (String.ofList (authority ++ overrun)) ∧
      find url.toList [':'] (scheme.length + 3) =
        if ':' ∈ '/' :: tail then some (scheme.length + 3 + (authority ++ overrun).length)
        else none := by
  by_cases hasColon : ':' ∈ '/' :: tail
  · rcases List.eq_append_cons_of_mem hasColon with ⟨before, after, isPath, noEarlier⟩
    have isRest : authority ++ '/' :: tail = (authority ++ before) ++ ':' :: after := by
      rw [isPath, List.append_assoc]
    refine ⟨before, ?_, parts.substr_host isRest, ?_⟩
    · rw [hostOverrun, if_pos hasColon, isPath, List.takeWhile_append_of_pos,
        List.takeWhile_cons_of_neg (by decide), List.append_nil]
      intro character member
      simp only [ne_eq, decide_eq_true_eq]
      exact fun isColon => noEarlier (isColon ▸ member)
    · rw [if_pos hasColon]
      apply parts.find_behind isRest
      rw [List.mem_append, not_or]
      exact ⟨noColon, noEarlier⟩
  · refine ⟨[], ?_, ?_, ?_⟩
    · rw [hostOverrun, if_neg hasColon]
    · rw [List.append_nil]
      exact parts.substr_host rfl
    · rw [if_neg hasColon]
      apply parts.find_behind_eq_none
      rw [List.mem_append, not_or]
      exact ⟨noColon, hasColon⟩

/-- A URL without a port. -/
theorem parseUrl_of_noPort {authority path : List Char}
    (parts : HasScheme url scheme (authority ++ path)) (noSlash : '/' ∉ authority)
    (noColon : ':' ∉ authority) (rooted : Rooted path) :
    parseUrl url =
      { scheme := String.ofList scheme
        host := String.ofList (authority ++ hostOverrun path)
        port := defaultPort (String.ofList scheme)
        target := targetOf path } := by
  apply parseUrl_of_eq_some
  have schemeFound := parts.find_scheme
  have schemeRead := parts.substr_scheme
  cases rooted with
  | empty =>
      rw [List.append_nil] at parts
      have pathFound := parts.find_behind_eq_none noSlash
      have portFound := parts.find_behind_eq_none noColon
      have hostRead : substr url.toList (scheme.length + 3) none =
          some (String.ofList authority) := @HasScheme.substr_tail _ _ _ [] _ parts rfl
      have noOverrun : authority ++ hostOverrun [] = authority := List.append_nil authority
      simp only [parseUrl?, schemeFound, schemeRead, pathFound, portFound, Option.isSome_none,
        Bool.false_eq_true, if_false, if_true, hostRead, noOverrun, targetOf, defaultPort,
        Option.bind_eq_bind, Option.bind_some]
  | slash tail =>
      have pathFound := parts.find_behind rfl noSlash
      have targetRead := parts.substr_tail rfl
      rcases parts.host_of_noPort noColon with ⟨overrun, isOverrun, hostRead, portFound⟩
      rw [isOverrun]
      split at portFound
      next hasColon =>
        -- The first colon lies in the path and ends the host.
        have notBefore : ¬scheme.length + 3 + (authority ++ overrun).length <
            scheme.length + 3 + authority.length := by
          rw [List.length_append]
          omega
        simp only [parseUrl?, schemeFound, schemeRead, pathFound, portFound, Option.isSome_some,
          if_true, sizeSub_add_left, hostRead, notBefore, if_false, targetRead, targetOf,
          defaultPort, Option.bind_eq_bind, Option.bind_some, reduceCtorEq]
      next noColonInPath =>
        have noOverrun : overrun = [] := by
          rw [← isOverrun, hostOverrun, if_neg noColonInPath]
        rw [noOverrun, List.append_nil] at hostRead
        rw [noOverrun, List.append_nil]
        simp only [parseUrl?, schemeFound, schemeRead, pathFound, portFound, Option.isSome_none,
          Bool.false_eq_true, if_false, sizeSub_add_left, hostRead, targetRead, targetOf,
          defaultPort, Option.bind_eq_bind, Option.bind_some, reduceCtorEq]

/-- The target of a URL with a scheme is what follows the authority. -/
theorem HasScheme.target (parts : HasScheme url scheme rest) :
    (parseUrl url).target = targetOf (rest.dropWhile (· ≠ '/')) := by
  have split : rest.takeWhile (· ≠ '/') ++ rest.dropWhile (· ≠ '/') = rest :=
    List.takeWhile_append_dropWhile
  have noSlash := not_mem_takeWhile rest
  have rooted := rooted_dropWhile rest
  generalize rest.takeWhile (· ≠ '/') = authority at split noSlash
  generalize rest.dropWhile (· ≠ '/') = path at split rooted ⊢
  subst split
  by_cases hasColon : ':' ∈ authority
  · rcases List.eq_append_cons_of_mem hasColon with ⟨host, port, isAuthority, hostColon⟩
    subst isAuthority
    rw [List.mem_append, List.mem_cons, not_or, not_or] at noSlash
    rw [List.append_assoc, List.cons_append] at parts
    rw [parseUrl_of_port parts noSlash.1 hostColon noSlash.2.2 rooted]
  · rw [parseUrl_of_noPort parts noSlash hasColon rooted]

end Parts

/-- A URL without `://` is taken for a host as a whole. -/
theorem parseUrl_of_noScheme {url : String} (absent : ¬"://".toList <:+: url.toList) :
    parseUrl url = { scheme := "https", host := url, port := "443", target := "/" } := by
  apply parseUrl_of_eq_some
  have notFound : find url.toList "://".toList 0 = none := by
    simp only [find, Nat.zero_le, if_true, List.drop_zero]
    exact findFrom_eq_none absent 0
  simp only [parseUrl?, notFound]

/-- A URL that contains `://` is cut at the first one. -/
theorem exists_hasScheme {url : String} (present : "://".toList <:+: url.toList) :
    ∃ scheme rest, HasScheme url scheme rest := by
  rcases exists_occursFirst (by decide) present with ⟨scheme, rest, text, first⟩
  exact ⟨scheme, rest, text, first⟩

/-- A scheme without a colon is followed by the first `://`. -/
theorem occursFirst_scheme {scheme : List Char} (noColon : ':' ∉ scheme) :
    OccursFirst "://".toList scheme := by
  intro inside
  rcases inside with ⟨before, after, isText⟩
  change before ++ [':', '/', '/'] ++ after = scheme ++ [':', '/'] at isText
  -- The only colon is the one behind the scheme, with too little left for the pattern.
  rw [List.append_assoc, List.cons_append] at isText
  rcases List.append_eq_append_iff.mp isText with
    ⟨middle, isScheme, isRest⟩ | ⟨middle, isBefore, isRest⟩
  · cases middle with
    | nil => simp at isRest
    | cons head middle =>
        have isColon : ':' = head := (List.cons.inj isRest).1
        apply noColon
        rw [isScheme, ← isColon]
        simp
  · cases middle with
    | nil => simp at isRest
    | cons head middle =>
        have short := congrArg List.length isRest
        simp at short
        omega

end Boai.Completion
