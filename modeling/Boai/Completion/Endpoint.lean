import Boai.Completion.UrlIndices
import Boai.Completion.UrlParts

/-!
# The endpoint of a base URL

Both requests go to `ParseUrl(BuildCompletionsUrl(base_url))`.  The helpers are
safe on every string, and slashes at the end of a base URL make no difference.
Two kinds of base URLs are taken apart in a wrong way.  A colon in the path of a
URL without a port ends up in the host, with all that precedes it.  And a base
URL without a scheme becomes a host as a whole, with the appended path.
-/

namespace Boai.Completion

open FirstOccurrence

/-! ## Slashes at the end -/

/-- The text without the slashes at its end. -/
abbrev stripSlashes (text : List Char) : List Char := text.rdropWhile (· = '/')

/-- The path that `BuildCompletionsUrl` appends. -/
def completionsPath : List Char := "/chat/completions".toList

theorem buildCompletionsUrl_toList (baseUrl : String) :
    (buildCompletionsUrl baseUrl).toList = stripSlashes baseUrl.toList ++ completionsPath := by
  unfold buildCompletionsUrl completionsPath
  rw [String.toList_append, String.toList_ofList]

theorem stripSlashes_append_slashes (text : List Char) (slashes : Nat) :
    stripSlashes (text ++ List.replicate slashes '/') = stripSlashes text := by
  simp only [stripSlashes, List.rdropWhile, List.reverse_append, List.reverse_replicate]
  rw [List.dropWhile_append_of_pos]
  intro character member
  simp [List.eq_of_mem_replicate member]

theorem not_slash_suffix_stripSlashes (text : List Char) : ¬['/'] <:+ stripSlashes text := by
  rintro ⟨front, isText⟩
  have nonempty : stripSlashes text ≠ [] := by
    rw [← isText]
    simp
  have last := List.rdropWhile_last_not (· = '/') text nonempty
  simp [← isText] at last

/-- Nothing but slashes is stripped. -/
theorem exists_replicate_stripSlashes (text : List Char) :
    ∃ slashes, text = stripSlashes text ++ List.replicate slashes '/' := by
  induction text using List.reverseRecOn with
  | nil => exact ⟨0, rfl⟩
  | append_singleton front last ih =>
      by_cases isSlash : last = '/'
      · subst isSlash
        rcases ih with ⟨slashes, isFront⟩
        refine ⟨slashes + 1, ?_⟩
        rw [stripSlashes, List.rdropWhile_concat_pos _ _ _ (by simp), List.replicate_succ',
          ← List.append_assoc, List.append_left_inj]
        exact isFront
      · refine ⟨0, ?_⟩
        rw [stripSlashes, List.rdropWhile_concat_neg _ _ _ (by simp [isSlash]), List.replicate_zero,
          List.append_nil]

/-- Stripping stops at a part without slashes. -/
theorem stripSlashes_append {middle : List Char} (nonempty : middle ≠ [])
    (noSlash : '/' ∉ middle) (front path : List Char) :
    stripSlashes (front ++ middle ++ path) = front ++ middle ++ stripSlashes path := by
  induction path using List.reverseRecOn with
  | nil =>
      rcases List.eq_nil_or_concat' middle with isEmpty | ⟨start, last, isMiddle⟩
      · exact absurd isEmpty nonempty
      · have notSlash : last ≠ '/' := by
          intro isSlash
          apply noSlash
          simp [isMiddle, isSlash]
        rw [isMiddle, List.append_nil, ← List.append_assoc]
        simp [stripSlashes, notSlash]
  | append_singleton path last ih =>
      rw [← List.append_assoc]
      simp only [stripSlashes, List.rdropWhile_concat]
      split
      next => exact ih
      next => rw [List.append_assoc]

theorem mem_stripSlashes {character : Char} (notSlash : character ≠ '/') (text : List Char) :
    character ∈ stripSlashes text ↔ character ∈ text := by
  induction text using List.reverseRecOn with
  | nil => rfl
  | append_singleton text last ih =>
      simp only [stripSlashes, List.rdropWhile_concat]
      split
      next isSlash =>
        have lastSlash : last = '/' := of_decide_eq_true isSlash
        rw [List.mem_append, List.mem_singleton, lastSlash, or_iff_left notSlash]
        exact ih
      next => rfl

/-- The path of an endpoint: the stripped path of the base URL and the appended one. -/
def endpointPath (path : List Char) : List Char := stripSlashes path ++ completionsPath

theorem endpointPath_rooted {path : List Char} (rooted : Rooted path) :
    Rooted (endpointPath path) := by
  unfold endpointPath
  cases rooted with
  | empty => exact .slash _
  | slash rest =>
      cases stripped : stripSlashes ('/' :: rest) with
      | nil => exact .slash _
      | cons head tail =>
          have isPrefix : stripSlashes ('/' :: rest) <+: '/' :: rest :=
            List.rdropWhile_prefix _ _
          rw [stripped, List.cons_prefix_cons] at isPrefix
          rw [isPrefix.1]
          exact .slash _

theorem targetOf_endpointPath (path : List Char) :
    targetOf (endpointPath path) = String.ofList (endpointPath path) := by
  apply if_neg
  intro isEmpty
  exact absurd (List.append_eq_nil_iff.mp isEmpty).2 (by decide)

theorem colon_mem_endpointPath (path : List Char) : ':' ∈ endpointPath path ↔ ':' ∈ path := by
  rw [endpointPath, List.mem_append, or_iff_left (by decide), mem_stripSlashes (by decide)]

/-- A rooted path is read correctly unless it has a colon. -/
theorem hostOverrun_eq_nil_iff {path : List Char} (rooted : Rooted path) :
    hostOverrun path = [] ↔ ':' ∉ path := by
  cases rooted with
  | empty => simp [hostOverrun]
  | slash rest =>
      by_cases hasColon : ':' ∈ '/' :: rest
      · rw [hostOverrun, if_pos hasColon, List.takeWhile_cons_of_pos (by decide)]
        simp [hasColon]
      · rw [hostOverrun, if_neg hasColon]
        simp [hasColon]

/-! ## Every string -/

/-- What `ParseUrl` promises for every string: its index arithmetic stays within
bounds, whatever number above the size of the string `npos` is, and the target
starts with a slash. -/
structure SafelyParsed (url : String) : Prop where
  indices : ∀ npos, url.toList.length < npos → parseUrlAt npos url = some (parseUrl url)
  target : ['/'] <+: (parseUrl url).target.toList

theorem safelyParsed (url : String) : SafelyParsed url where
  indices npos fits := parseUrlAt_eq_some fits
  target := by
    by_cases hasScheme : "://".toList <:+: url.toList
    · rcases exists_hasScheme hasScheme with ⟨scheme, rest, parts⟩
      rw [parts.target]
      exact slash_prefix_targetOf (rooted_dropWhile rest)
    · rw [parseUrl_of_noScheme hasScheme]
      exact slash_prefix_targetOf .empty

/-- The target is the suffix of the URL from the first slash after the first `://`. -/
def FromFirstSlash (url target : String) : Prop :=
  ∃ scheme authority, url.toList = scheme ++ "://".toList ++ authority ++ target.toList ∧
    OccursFirst "://".toList scheme ∧ '/' ∉ authority ∧ ['/'] <+: target.toList

/-- A URL that contains `://` before the appended path is cut at the first slash
after the authority, which the appended path provides at the latest. -/
theorem fromFirstSlash {baseUrl : String}
    (hasScheme : "://".toList <:+: stripSlashes baseUrl.toList) :
    FromFirstSlash (buildCompletionsUrl baseUrl) (parseUrl (buildCompletionsUrl baseUrl)).target ∧
      completionsPath <:+ (parseUrl (buildCompletionsUrl baseUrl)).target.toList := by
  rcases exists_occursFirst (by decide) hasScheme with ⟨scheme, rest, isText, first⟩
  have parts : HasScheme (buildCompletionsUrl baseUrl) scheme (rest ++ completionsPath) := by
    constructor
    · rw [buildCompletionsUrl_toList, isText, List.append_assoc]
    · exact first
  have ends : completionsPath <:+ (rest ++ completionsPath).dropWhile (· ≠ '/') := by
    rw [List.dropWhile_append]
    split
    next => exact List.suffix_rfl
    next => exact List.suffix_append _ _
  have nonempty : (rest ++ completionsPath).dropWhile (· ≠ '/') ≠ [] := by
    intro isEmpty
    rw [isEmpty] at ends
    exact absurd (List.suffix_nil.mp ends) (by decide)
  have isTarget : (parseUrl (buildCompletionsUrl baseUrl)).target.toList =
      (rest ++ completionsPath).dropWhile (· ≠ '/') := by
    rw [parts.target, targetOf, if_neg nonempty, String.toList_ofList]
  constructor
  · refine ⟨scheme, (rest ++ completionsPath).takeWhile (· ≠ '/'), ?_, first, ?_, ?_⟩
    · rw [isTarget, List.append_assoc, List.takeWhile_append_dropWhile]
      exact parts.text
    · exact not_mem_takeWhile _
    · exact (safelyParsed _).target
  · rw [isTarget]
    exact ends

/-- **Every string.**  `ParseUrl` is safe on every string, slashes at the end of a
base URL make no difference, and the completions path is appended to the base URL
without the slashes at its end.  When that text contains `://`, the target is cut
out of the URL correctly and ends in the appended path. -/
theorem urlHelpers_safe (url baseUrl : String) (slashes : Nat) :
    SafelyParsed url ∧
      buildCompletionsUrl (baseUrl ++ String.ofList (List.replicate slashes '/')) =
        buildCompletionsUrl baseUrl ∧
      ∃ stripped dropped, baseUrl.toList = stripped ++ List.replicate dropped '/' ∧
        (buildCompletionsUrl baseUrl).toList = stripped ++ "/chat/completions".toList ∧
        ¬['/'] <:+ stripped ∧
        ("://".toList <:+: stripped →
          FromFirstSlash (buildCompletionsUrl baseUrl)
              (parseUrl (buildCompletionsUrl baseUrl)).target ∧
            "/chat/completions".toList <:+
              (parseUrl (buildCompletionsUrl baseUrl)).target.toList) := by
  rcases exists_replicate_stripSlashes baseUrl.toList with ⟨dropped, isText⟩
  refine ⟨safelyParsed url, ?_, stripSlashes baseUrl.toList, dropped, isText,
    buildCompletionsUrl_toList baseUrl, not_slash_suffix_stripSlashes baseUrl.toList,
    fromFirstSlash⟩
  apply String.toList_injective
  rw [buildCompletionsUrl_toList, buildCompletionsUrl_toList, String.toList_append,
    String.toList_ofList, stripSlashes_append_slashes]

/-! ## Base URLs with a scheme -/

/-- A base URL `scheme://host[:port][path]`. -/
structure BaseUrl where
  scheme : String
  host : String
  port : Option String
  path : String
  schemeNonempty : scheme ≠ ""
  schemeColon : ':' ∉ scheme.toList
  hostNonempty : host ≠ ""
  hostSlash : '/' ∉ host.toList
  hostColon : ':' ∉ host.toList
  portNonempty : ∀ digits ∈ port, digits ≠ ""
  portDigits : ∀ digits ∈ port, ∀ character ∈ digits.toList, character.isDigit
  pathRooted : Rooted path.toList

namespace BaseUrl

variable (base : BaseUrl)

/-- The part between the host and the path. -/
def portText : String :=
  match base.port with
  | none => ""
  | some digits => ":" ++ digits

def text : String := base.scheme ++ "://" ++ base.host ++ base.portText ++ base.path

/-- The base URL taken apart, with the path that the endpoint has. -/
def endpoint : ParsedUrl where
  scheme := base.scheme
  host := base.host
  port := base.port.getD (if base.scheme = "https" then "443" else "80")
  target := String.ofList (base.path.toList.rdropWhile (· = '/')) ++ "/chat/completions"

theorem endpoint_target : base.endpoint.target = targetOf (endpointPath base.path.toList) := by
  rw [targetOf_endpointPath, endpointPath, String.ofList_append]
  rfl

theorem toList_text :
    base.text.toList = base.scheme.toList ++ "://".toList ++
      (base.host.toList ++ base.portText.toList) ++ base.path.toList := by
  simp only [text, String.toList_append, List.append_assoc]

theorem portSlash {digits : String} (hasPort : base.port = some digits) : '/' ∉ digits.toList := by
  intro member
  exact absurd (base.portDigits digits hasPort '/' member) (by decide)

theorem portText_noSlash : '/' ∉ base.portText.toList := by
  unfold portText
  cases hasPort : base.port with
  | none => exact List.not_mem_nil
  | some digits =>
      rw [String.toList_append, List.mem_append, not_or]
      exact ⟨by decide, base.portSlash hasPort⟩

/-- The parts of the URL that is requested. -/
theorem hasScheme :
    HasScheme (buildCompletionsUrl base.text) base.scheme.toList
      (base.host.toList ++ base.portText.toList ++ endpointPath base.path.toList) where
  text := by
    have nonempty : base.host.toList ++ base.portText.toList ≠ [] := by
      intro isEmpty
      apply base.hostNonempty
      exact String.toList_eq_nil_iff.mp (List.append_eq_nil_iff.mp isEmpty).1
    have noSlash : '/' ∉ base.host.toList ++ base.portText.toList := by
      rw [List.mem_append, not_or]
      exact ⟨base.hostSlash, base.portText_noSlash⟩
    rw [buildCompletionsUrl_toList, toList_text, stripSlashes_append nonempty noSlash, endpointPath]
    simp only [List.append_assoc]
  first := occursFirst_scheme base.schemeColon

theorem requested_of_port {digits : String} (hasPort : base.port = some digits) :
    parseUrl (buildCompletionsUrl base.text) = base.endpoint := by
  have parts := base.hasScheme
  have isPort : base.portText.toList = ':' :: digits.toList := by
    simp only [portText, hasPort, String.toList_append]
    rfl
  rw [isPort, List.append_assoc, List.cons_append] at parts
  rw [parseUrl_of_port parts base.hostSlash base.hostColon (base.portSlash hasPort)
    (endpointPath_rooted base.pathRooted), ← endpoint_target]
  simp only [endpoint, hasPort, Option.getD_some, String.ofList_toList]

theorem requested_of_noPort (noPort : base.port = none) :
    parseUrl (buildCompletionsUrl base.text) =
      { base.endpoint with
        host := String.ofList
          (base.host.toList ++ hostOverrun (endpointPath base.path.toList)) } := by
  have parts := base.hasScheme
  have isPort : base.portText.toList = [] := by
    simp only [portText, noPort]
    rfl
  rw [isPort, List.append_nil] at parts
  rw [parseUrl_of_noPort parts base.hostSlash base.hostColon
    (endpointPath_rooted base.pathRooted), ← endpoint_target]
  simp only [endpoint, noPort, Option.getD_none, String.ofList_toList, defaultPort]

/-- Without a port, the host is read correctly unless the path has a colon. -/
theorem host_of_noPort_iff :
    String.ofList (base.host.toList ++ hostOverrun (endpointPath base.path.toList)) = base.host ↔
      ':' ∉ base.path.toList := by
  rw [← colon_mem_endpointPath, ← hostOverrun_eq_nil_iff (endpointPath_rooted base.pathRooted)]
  constructor
  · intro same
    have texts := congrArg String.toList same
    rw [String.toList_ofList] at texts
    exact List.append_right_eq_self.mp texts
  · intro noOverrun
    rw [noOverrun, List.append_nil, String.ofList_toList]

end BaseUrl

/-- **Base URLs with a scheme.**  The request goes to the scheme, the host, the
port and the path of the base URL if and only if the base URL has a port or its
path has no colon. -/
theorem parseUrl_endpoint_iff (base : BaseUrl) :
    parseUrl (buildCompletionsUrl base.text) = base.endpoint ↔
      base.port.isSome ∨ ':' ∉ base.path.toList := by
  cases hasPort : base.port with
  | some digits => simp [base.requested_of_port hasPort]
  | none =>
      rw [base.requested_of_noPort hasPort]
      simp only [Option.isSome_none, Bool.false_eq_true, false_or]
      rw [← base.host_of_noPort_iff]
      constructor
      · intro same
        exact congrArg ParsedUrl.host same
      · intro sameHost
        rw [sameHost]
        rfl

/-- `http://h/a:b`. -/
def colonInPath : BaseUrl where
  scheme := "http"
  host := "h"
  port := none
  path := "/a:b"
  schemeNonempty := by decide
  schemeColon := by decide
  hostNonempty := by decide
  hostSlash := by decide
  hostColon := by decide
  portNonempty := nofun
  portDigits := nofun
  pathRooted := .slash _

/-- The host of `http://h/a:b` is taken to be `h/a`. -/
theorem colonInPath_host :
    colonInPath.text = "http://h/a:b" ∧
      (parseUrl (buildCompletionsUrl colonInPath.text)).host = "h/a" ∧
      parseUrl (buildCompletionsUrl colonInPath.text) ≠ colonInPath.endpoint := by
  decide

/-! ## Base URLs without a scheme -/

/-- A base URL `host[path]` without any colon. -/
structure BareUrl where
  host : String
  path : String
  hostNonempty : host ≠ ""
  hostSlash : '/' ∉ host.toList
  noColon : ':' ∉ (host ++ path).toList
  pathRooted : Rooted path.toList

namespace BareUrl

variable (bare : BareUrl)

def text : String := bare.host ++ bare.path

theorem host_noColon : ':' ∉ bare.host.toList := by
  have noColon := bare.noColon
  rw [String.toList_append, List.mem_append, not_or] at noColon
  exact noColon.1

theorem path_noColon : ':' ∉ bare.path.toList := by
  have noColon := bare.noColon
  rw [String.toList_append, List.mem_append, not_or] at noColon
  exact noColon.2

/-- The same base URL with the scheme that is meant. -/
def withScheme : BaseUrl where
  scheme := "https"
  host := bare.host
  port := none
  path := bare.path
  schemeNonempty := by decide
  schemeColon := by decide
  hostNonempty := bare.hostNonempty
  hostSlash := bare.hostSlash
  hostColon := bare.host_noColon
  portNonempty := nofun
  portDigits := nofun
  pathRooted := bare.pathRooted

theorem withScheme_text : bare.withScheme.text = "https://" ++ bare.text := by
  simp only [BaseUrl.text, BaseUrl.portText, withScheme, text, String.append_empty,
    String.append_assoc]
  have written : "https" ++ "://" = "https://" := by decide
  rw [← written, String.append_assoc]

/-- With its scheme written out, a base URL is taken apart correctly. -/
theorem requested_withScheme :
    parseUrl (buildCompletionsUrl ("https://" ++ bare.text)) =
      { scheme := "https"
        host := bare.host
        port := "443"
        target := String.ofList (bare.path.toList.rdropWhile (· = '/')) ++
          "/chat/completions" } := by
  rw [← withScheme_text, bare.withScheme.requested_of_noPort rfl,
    (bare.withScheme.host_of_noPort_iff).mpr bare.path_noColon]
  rfl

/-- Without a scheme, the whole URL is the host, the appended path included. -/
theorem requested :
    parseUrl (buildCompletionsUrl bare.text) =
      { scheme := "https"
        host := buildCompletionsUrl bare.text
        port := "443"
        target := "/" } := by
  apply parseUrl_of_noScheme
  intro inside
  have hasColon : ':' ∈ (buildCompletionsUrl bare.text).toList := inside.subset (by decide)
  rw [buildCompletionsUrl_toList] at hasColon
  exact bare.noColon ((colon_mem_endpointPath _).mp hasColon)

end BareUrl

/-- **Base URLs without a scheme.**  The request for `host[path]` never goes
where the one for `https://host[path]` goes: the host is the whole URL, and the
target does not end in the completions path. -/
theorem bareUrl_differs (bare : BareUrl) :
    parseUrl (buildCompletionsUrl ("https://" ++ bare.text)) =
        { scheme := "https"
          host := bare.host
          port := "443"
          target := String.ofList (bare.path.toList.rdropWhile (· = '/')) ++
            "/chat/completions" } ∧
      parseUrl (buildCompletionsUrl bare.text) =
        { scheme := "https"
          host := buildCompletionsUrl bare.text
          port := "443"
          target := "/" } ∧
      parseUrl (buildCompletionsUrl bare.text) ≠
        parseUrl (buildCompletionsUrl ("https://" ++ bare.text)) := by
  refine ⟨bare.requested_withScheme, bare.requested, ?_⟩
  rw [bare.requested_withScheme, bare.requested]
  intro same
  have targets := congrArg (String.length ∘ ParsedUrl.target) same
  have slashLength : "/".length = 1 := by decide
  have appendedLength : "/chat/completions".length = 17 := by decide
  simp only [Function.comp_apply, String.length_append] at targets
  omega

/-- `api.example.com/v1`. -/
def exampleBare : BareUrl where
  host := "api.example.com"
  path := "/v1"
  hostNonempty := by decide
  hostSlash := by decide
  noColon := by decide
  pathRooted := .slash _

/-- The request for `api.example.com/v1` goes to a host with a path in its name. -/
theorem exampleBare_host :
    exampleBare.text = "api.example.com/v1" ∧
      (parseUrl (buildCompletionsUrl exampleBare.text)).host =
        "api.example.com/v1/chat/completions" ∧
      parseUrl (buildCompletionsUrl exampleBare.text) ≠
        parseUrl (buildCompletionsUrl ("https://" ++ exampleBare.text)) := by
  decide

end Boai.Completion
