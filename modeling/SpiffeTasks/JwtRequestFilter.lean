import SpiffeTasks.Backend
import SpiffeTasks.Lib.Search

/-!
# The JWT filter of the backend

`JwtRequestFilter` stands before `TaskController` in the JWT demo. It takes the
token out of the `Authorization` header, and has `JwtSvid.parseAndValidate`
accept or reject it. `SecurityConfig` permits every request and adds this filter
to those of Spring Security. Of these some run earlier, one against CSRF among
them, and can answer a request themselves. This module is about the requests that
reach the filter.

1. `doFilterInternal_eq`, `serveJwt_eq`: a request gets the answer of the rest of
   the chain, marked with the status that the filter recorded.
2. `doFilterInternal_parsed`, `doFilterInternal_error`: the token and the status
   that the filter leaves behind, whatever the rest of the chain does.
3. `serveJwt_state`: what a request does to the store does not depend on its
   token.
-/

namespace SpiffeTasks

/-! ## Apache Commons `StringUtils` -/

namespace StringUtils

/-- `Character.isWhitespace`: the Unicode separators other than the no-break
spaces, and the control characters tab to carriage return and `U+001C` to
`U+001F`. -/
def isWhitespace (c : Char) : Bool :=
  let n := c.toNat
  (0x9 ≤ n && n ≤ 0xD) || (0x1C ≤ n && n ≤ 0x20) || n == 0x1680 ||
    (0x2000 ≤ n && n ≤ 0x2006) || (0x2008 ≤ n && n ≤ 0x200A) ||
    n == 0x2028 || n == 0x2029 || n == 0x205F || n == 0x3000

/-- `isBlank`: null, empty, or whitespace only. -/
def isBlank (str : Option String) : Bool :=
  str.elim true fun s => s.toList.all isWhitespace

/-- `substringAfter`: null for null, the empty string when the separator does
not occur. -/
def substringAfter (str : Option String) (separator : String) : Option String :=
  str.map fun s => String.ofList ((Search.afterFirst separator.toList s.toList).getD [])

end StringUtils

/-! ## The servlet objects -/

/-- The checked exceptions of `JwtSvid.parseAndValidate`. -/
inductive TokenError
  | jwtSvidException
  | bundleNotFoundException
  | authorityNotFoundException
  deriving DecidableEq

/-- What the filter chain reads and writes while one request is served. -/
structure Exchange (σ : Type) where
  store : σ
  /-- The status that `sendError` recorded last. -/
  error : Option Nat := none
  /-- What the rest of the chain wrote. -/
  written : Option Response := none
  /-- The token handed to `JwtSvid.parseAndValidate`, if it was called. -/
  parsed : Option String := none

section Filter

variable {σ : Type}

/-- `HttpServletResponse.sendError` marks the response and returns. -/
def sendError (status : Nat) : EStateM Thrown (Exchange σ) Unit :=
  modify fun x => { x with error := some status }

/-- `FilterChain.doFilter` runs the rest of the chain. -/
def doFilter (filterChain : EStateM Thrown σ Response) : EStateM Thrown (Exchange σ) Unit :=
  fun x =>
    match filterChain x.store with
    | .ok response s => .ok () { x with store := s, written := some response }
    | .error e s => .error e { x with store := s }

/-- The call of `JwtSvid.parseAndValidate`. An exception is a value here, for
the filter catches every one it declares. -/
def parseToken (parseAndValidate : String → Except TokenError Unit) (token : String) :
    EStateM Thrown (Exchange σ) (Except TokenError Unit) := do
  modify fun x => { x with parsed := some token }
  return parseAndValidate token

/-- `JwtRequestFilter.doFilterInternal`. `requestHeader` is the `Authorization`
header, `parseAndValidate` the answer of the library for the bundle at hand and
the audience `backend1`. -/
def doFilterInternal (parseAndValidate : String → Except TokenError Unit)
    (requestHeader : Option String) (filterChain : EStateM Thrown σ Response) :
    EStateM Thrown (Exchange σ) Unit := do
  let token := StringUtils.substringAfter requestHeader "Bearer "
  if StringUtils.isBlank token then
    sendError 400
    doFilter filterChain
    return
  -- A token that is not blank is not null.
  match ← parseToken parseAndValidate (token.getD "") with
  | .ok () => pure ()
  | .error _ => sendError 401
  doFilter filterChain

/-- The token that the filter takes out of the `Authorization` header. -/
def tokenOf (requestHeader : Option String) : Option String :=
  StringUtils.substringAfter requestHeader "Bearer "

theorem tokenOf_some (text : String) :
    tokenOf (some text) =
      some (String.ofList ((Search.afterFirst "Bearer ".toList text.toList).getD [])) := rfl

/-- The filter gets back the token of a header that has the scheme. -/
theorem tokenOf_bearer (token : String) : tokenOf (some ("Bearer " ++ token)) = some token := by
  rw [tokenOf_some, String.toList_append, Search.afterFirst_append, Option.getD_some,
    String.ofList_toList]

/-- The token that the filter hands to `JwtSvid.parseAndValidate`, if it calls it. -/
def parsedToken (requestHeader : Option String) : Option String :=
  if StringUtils.isBlank (tokenOf requestHeader) then none else tokenOf requestHeader

/-- The status that the filter records for a header, if it records one. -/
def recordedError (parseAndValidate : String → Except TokenError Unit)
    (requestHeader : Option String) : Option Nat :=
  if StringUtils.isBlank (tokenOf requestHeader) then some 400
  else
    match parseAndValidate ((tokenOf requestHeader).getD "") with
    | .ok () => none
    | .error _ => some 401

/-- The servlet container's answer after a filter that recorded `error`. What
the chain wrote after `sendError` is dropped and the recorded status stands,
unless the chain ended in an exception. -/
def answerMarked (error : Option Nat) : EStateM.Result Thrown σ Response → Response × σ
  | .ok response s => (error.elim response .errorPage, s)
  | .error _ s => (.errorPage 500, s)

/-- The container reads its answer off the exchange when the filter is done. -/
def answerExchange : EStateM.Result Thrown (Exchange σ) Unit → Response × σ
  | .ok () x => (x.error.elim (x.written.getD (.ok .empty)) .errorPage, x.store)
  | .error _ x => (.errorPage 500, x.store)

/-- Marking a response does not reach the store. -/
theorem answerMarked_state (error : Option Nat) (r : EStateM.Result Thrown σ Response) :
    (answerMarked error r).2 = (answer r).2 := by
  cases r with
  | ok response s => rfl
  | error e s => rfl

theorem answerMarked_none (r : EStateM.Result Thrown σ Response) :
    answerMarked none r = answer r := by
  cases r with
  | ok response s => rfl
  | error e s => rfl

/-! ## The three exits of the filter -/

variable {parseAndValidate : String → Except TokenError Unit} {requestHeader : Option String}
  {filterChain : EStateM Thrown σ Response} {x : Exchange σ}

theorem doFilterInternal_blank (hblank : StringUtils.isBlank (tokenOf requestHeader) = true) :
    doFilterInternal parseAndValidate requestHeader filterChain x =
      doFilter filterChain { x with error := some 400 } := by
  unfold tokenOf at hblank
  unfold doFilterInternal
  simp only [hblank, if_true]
  show EStateM.bind (doFilter filterChain) (fun _ => EStateM.pure ()) _ = _
  unfold EStateM.bind
  cases doFilter filterChain { x with error := some 400 } with
  | ok u y => rfl
  | error e y => rfl

theorem doFilterInternal_accepted {token : String}
    (htoken : tokenOf requestHeader = some token)
    (hblank : StringUtils.isBlank (some token) = false) (hok : parseAndValidate token = .ok ()) :
    doFilterInternal parseAndValidate requestHeader filterChain x =
      doFilter filterChain { x with parsed := some token } := by
  unfold tokenOf at htoken
  unfold doFilterInternal
  simp only [htoken, hblank, Option.getD_some, Bool.false_eq_true, if_false, parseToken, hok]
  rfl

theorem doFilterInternal_rejected {token : String} {e : TokenError}
    (htoken : tokenOf requestHeader = some token)
    (hblank : StringUtils.isBlank (some token) = false)
    (herror : parseAndValidate token = .error e) :
    doFilterInternal parseAndValidate requestHeader filterChain x =
      doFilter filterChain { x with parsed := some token, error := some 401 } := by
  unfold tokenOf at htoken
  unfold doFilterInternal
  simp only [htoken, hblank, Option.getD_some, Bool.false_eq_true, if_false, parseToken, herror]
  rfl

theorem doFilter_state (filterChain : EStateM Thrown σ Response) (x : Exchange σ) :
    (doFilter filterChain x).state.parsed = x.parsed ∧
      (doFilter filterChain x).state.error = x.error := by
  unfold doFilter
  cases filterChain x.store with
  | ok response s => exact ⟨rfl, rfl⟩
  | error e s => exact ⟨rfl, rfl⟩

theorem answerExchange_doFilter :
    answerExchange (doFilter filterChain x) = answerMarked x.error (filterChain x.store) := by
  unfold doFilter
  cases filterChain x.store with
  | ok response s => rfl
  | error e s => rfl

/-- Whichever way it exits, the filter has run the rest of the chain on the
store as it was. -/
theorem doFilterInternal_eq (s : σ) :
    doFilterInternal parseAndValidate requestHeader filterChain { store := s } =
      doFilter filterChain
        { store := s
          error := recordedError parseAndValidate requestHeader
          parsed := parsedToken requestHeader } := by
  unfold recordedError parsedToken
  cases hblank : StringUtils.isBlank (tokenOf requestHeader) with
  | true =>
    rw [doFilterInternal_blank hblank]
    rfl
  | false =>
    cases htoken : tokenOf requestHeader with
    | none =>
      rw [htoken] at hblank
      exact absurd hblank (by decide)
    | some token =>
      rw [htoken] at hblank
      rw [Option.getD_some]
      cases hverdict : parseAndValidate token with
      | ok u =>
        rw [doFilterInternal_accepted htoken hblank hverdict]
        rfl
      | error e =>
        rw [doFilterInternal_rejected htoken hblank hverdict]
        rfl

theorem doFilterInternal_parsed (s : σ) :
    (doFilterInternal parseAndValidate requestHeader filterChain { store := s }).state.parsed =
      parsedToken requestHeader := by
  rw [doFilterInternal_eq]
  exact (doFilter_state filterChain _).1

theorem doFilterInternal_error (s : σ) :
    (doFilterInternal parseAndValidate requestHeader filterChain { store := s }).state.error =
      recordedError parseAndValidate requestHeader := by
  rw [doFilterInternal_eq]
  exact (doFilter_state filterChain _).2

theorem answerExchange_doFilterInternal (s : σ) :
    answerExchange (doFilterInternal parseAndValidate requestHeader filterChain { store := s }) =
      answerMarked (recordedError parseAndValidate requestHeader) (filterChain s) := by
  rw [doFilterInternal_eq, answerExchange_doFilter]

end Filter

/-! ## The backend of the JWT demo -/

/-- A request as it reaches the filter. `parseAndValidate` says which tokens the
library accepts at that moment: bundles change and tokens expire. -/
structure Arrival where
  request : Request
  authorization : Option String
  parseAndValidate : String → Except TokenError Unit

namespace Arrival

/-- The token is there, and `JwtSvid.parseAndValidate` accepts it. -/
def tokenValidates (a : Arrival) : Bool :=
  !StringUtils.isBlank (tokenOf a.authorization) &&
    (a.parseAndValidate ((tokenOf a.authorization).getD "")).isOk

/-- The status that the filter records for the request, if it records one. -/
def error (a : Arrival) : Option Nat := recordedError a.parseAndValidate a.authorization

theorem error_of_validates {a : Arrival} (h : a.tokenValidates = true) : a.error = none := by
  unfold tokenValidates at h
  unfold error recordedError
  rw [Bool.and_eq_true, Bool.not_eq_true'] at h
  obtain ⟨hblank, hok⟩ := h
  rw [if_neg (by simp [hblank])]
  cases hv : a.parseAndValidate ((tokenOf a.authorization).getD "") with
  | ok u => rfl
  | error e =>
    rw [hv] at hok
    exact absurd hok (by simp [Except.isOk, Except.toBool])

theorem error_of_not_validates {a : Arrival} (h : a.tokenValidates = false) :
    a.error = some 400 ∨ a.error = some 401 := by
  unfold tokenValidates at h
  unfold error recordedError
  cases hblank : StringUtils.isBlank (tokenOf a.authorization) with
  | true => exact .inl rfl
  | false =>
    rw [hblank, Bool.not_false, Bool.true_and] at h
    cases hv : a.parseAndValidate ((tokenOf a.authorization).getD "") with
    | ok u =>
      rw [hv] at h
      exact absurd h (by simp [Except.isOk, Except.toBool])
    | error e => exact .inr rfl

end Arrival

/-- The JWT demo's backend, from the filter on: the container runs the filter, and the
chain behind the filter ends in `TaskController`. -/
def serveJwt (a : Arrival) (db : H2) : Response × H2 :=
  answerExchange (doFilterInternal a.parseAndValidate a.authorization
    (TaskController.dispatch jpaRepository a.request) { store := db })

theorem serveJwt_eq (a : Arrival) (db : H2) :
    serveJwt a db =
      answerMarked a.error (TaskController.dispatch jpaRepository a.request db) :=
  answerExchange_doFilterInternal db

/-- What a request does to the store does not depend on its token. -/
theorem serveJwt_state (a : Arrival) (db : H2) :
    (serveJwt a db).2 = (serve jpaRepository a.request db).2 := by
  rw [serveJwt_eq]
  exact answerMarked_state a.error _

theorem serveJwt_accepted {a : Arrival} (h : a.error = none) (db : H2) :
    serveJwt a db = serve jpaRepository a.request db := by
  rw [serveJwt_eq, h]
  exact answerMarked_none _

/-- A request for which the filter recorded an error is answered with an error
page, and does to the store what it would have done. -/
theorem serveJwt_refused {a : Arrival} {recorded : Nat} (h : a.error = some recorded) (db : H2) :
    ∃ status, 400 ≤ status ∧
      serveJwt a db = (.errorPage status, (serve jpaRepository a.request db).2) := by
  have hrecorded : 400 ≤ recorded := by
    cases hv : a.tokenValidates with
    | true => exact absurd h (by rw [Arrival.error_of_validates hv]; simp)
    | false =>
      rcases Arrival.error_of_not_validates hv with he | he <;> rw [he] at h <;> cases h <;> decide
  rw [serveJwt_eq, h]
  unfold serve
  cases TaskController.dispatch jpaRepository a.request db with
  | ok response db' => exact ⟨recorded, hrecorded, rfl⟩
  | error e db' => exact ⟨500, by decide, rfl⟩

end SpiffeTasks
