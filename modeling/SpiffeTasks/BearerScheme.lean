import SpiffeTasks.JwtRequestFilter

/-!
# Which headers the filter reads as `Bearer`

The filter looks for `Bearer ` anywhere in the `Authorization` header. The
scheme is at the start of it.

1. `ReadsBearer`: the filter reads a header by the scheme.
2. `isBlank_tokenOf_iff`: the filter finds no token exactly when nothing but
   whitespace stands after any `Bearer ` in the header.
3. `readsBearer_iff`: the filter reads a header by the scheme exactly when the
   scheme is at its start or there is no token in it.
4. `basic_header_parsed`: a header of another scheme with a token in it.
-/

namespace SpiffeTasks

/-! ## 1. Headers of the scheme -/

section Filter

variable {σ : Type} (parseAndValidate : String → Except TokenError Unit)
  (requestHeader : Option String) (filterChain : EStateM Thrown σ Response) (s : σ)

/-- The header is `Bearer `, and then the token, which is not blank. -/
def IsBearer (token : String) : Prop :=
  requestHeader = some ("Bearer " ++ token) ∧ StringUtils.isBlank (some token) = false

/-- The filter reads the header by the scheme: it hands a token to
`JwtSvid.parseAndValidate` if that is the token of the header, and records a 400
if the header has none. -/
structure ReadsBearer : Prop where
  parses : ∀ token, (doFilterInternal parseAndValidate requestHeader filterChain
    { store := s }).state.parsed = some token ↔ IsBearer requestHeader token
  rejects : (∀ token, ¬ IsBearer requestHeader token) →
    (doFilterInternal parseAndValidate requestHeader filterChain { store := s }).state.parsed =
      none ∧
    (doFilterInternal parseAndValidate requestHeader filterChain { store := s }).state.error =
      some 400

end Filter

/-! ## 2. Headers without a token -/

namespace SchemeLemmas

theorem parsedToken_eq_some_iff {requestHeader : Option String} {token : String} :
    parsedToken requestHeader = some token ↔
      tokenOf requestHeader = some token ∧ StringUtils.isBlank (some token) = false := by
  unfold parsedToken
  split
  · next hblank =>
    refine iff_of_false (Option.some_ne_none token).symm ?_
    rintro ⟨htoken, hnot⟩
    rw [htoken, hnot] at hblank
    cases hblank
  · next hblank =>
    refine iff_self_and.mpr fun htoken => ?_
    rw [htoken] at hblank
    exact Bool.eq_false_iff.mpr hblank

theorem parsedToken_eq_none_iff {requestHeader : Option String} :
    parsedToken requestHeader = none ↔ StringUtils.isBlank (tokenOf requestHeader) = true := by
  unfold parsedToken
  split
  · next hblank => exact iff_of_true rfl hblank
  · next hblank =>
    refine iff_of_false (fun hnone => hblank ?_) hblank
    rw [hnone]
    rfl

theorem isBlank_tokenOf_some (text : String) :
    StringUtils.isBlank (tokenOf (some text)) =
      ((Search.afterFirst "Bearer ".toList text.toList).getD []).all StringUtils.isWhitespace := by
  rw [tokenOf_some, StringUtils.isBlank, Option.elim_some, String.toList_ofList]

theorem isBlank_of_suffix {rest : String} {l : List Char} (h : rest.toList <:+ l)
    (hblank : l.all StringUtils.isWhitespace = true) : StringUtils.isBlank (some rest) = true := by
  show rest.toList.all StringUtils.isWhitespace = true
  rw [List.all_eq_true] at hblank ⊢
  exact fun c hc => hblank c (h.subset hc)

end SchemeLemmas

open SchemeLemmas

/-- The filter takes a blank token out of a header exactly when nothing but
whitespace follows any `Bearer ` in it. -/
theorem isBlank_tokenOf_iff (requestHeader : Option String) :
    StringUtils.isBlank (tokenOf requestHeader) = true ↔
      ∀ pre rest, requestHeader = some (pre ++ "Bearer " ++ rest) →
        StringUtils.isBlank (some rest) = true := by
  cases requestHeader with
  | none =>
    refine iff_of_true rfl ?_
    rintro pre rest ⟨⟩
  | some text =>
    rw [isBlank_tokenOf_some]
    constructor
    · rintro hblank pre rest htext
      -- Every other remainder is a suffix of the one that was found.
      obtain ⟨found, hfound, hsuffix⟩ :=
        Search.afterFirst_longest "Bearer ".toList pre.toList rest.toList
      rw [Option.some.inj htext, String.toList_append, String.toList_append, List.append_assoc,
        hfound, Option.getD_some] at hblank
      exact isBlank_of_suffix hsuffix hblank
    · intro h
      cases hfound : Search.afterFirst "Bearer ".toList text.toList with
      | none => rfl
      | some found =>
        obtain ⟨pre, hpre⟩ := Search.afterFirst_eq_some hfound
        have htext : text = String.ofList pre ++ "Bearer " ++ String.ofList found := by
          rw [← String.toList_inj, hpre]
          simp only [String.toList_append, String.toList_ofList, List.append_assoc]
        have hblank := h _ _ (congrArg some htext)
        rwa [StringUtils.isBlank, Option.elim_some, String.toList_ofList] at hblank

/-! ## 3. Headers that are read by the scheme -/

namespace SchemeLemmas

theorem parsedToken_of_bearer (text token : String) :
    parsedToken (some ("Bearer " ++ text)) = some token ↔
      IsBearer (some ("Bearer " ++ text)) token := by
  unfold IsBearer
  rw [parsedToken_eq_some_iff, tokenOf_bearer, Option.some.injEq, Option.some.injEq,
    String.append_right_inj]

/-- Whether the filter reads a header by the scheme depends on the token that it
hands on alone: where it hands on none, it records a 400. -/
theorem readsBearer_iff_parsedToken {σ : Type}
    {parseAndValidate : String → Except TokenError Unit} {requestHeader : Option String}
    {filterChain : EStateM Thrown σ Response} {s : σ} :
    ReadsBearer parseAndValidate requestHeader filterChain s ↔
      ∀ token, parsedToken requestHeader = some token ↔ IsBearer requestHeader token := by
  constructor
  · rintro ⟨hparses, -⟩
    rwa [doFilterInternal_parsed] at hparses
  · intro h
    refine ⟨?_, fun hnot => ?_⟩
    · rwa [doFilterInternal_parsed]
    · have hnone : parsedToken requestHeader = none :=
        Option.eq_none_iff_forall_ne_some.mpr fun token ht => hnot token ((h token).mp ht)
      rw [doFilterInternal_parsed, doFilterInternal_error, recordedError,
        if_pos (parsedToken_eq_none_iff.mp hnone)]
      exact ⟨hnone, rfl⟩

end SchemeLemmas

/-- The filter reads a header by the scheme exactly when the header starts with
`Bearer `, or nothing but whitespace follows any `Bearer ` in it. -/
theorem readsBearer_iff {σ : Type} (parseAndValidate : String → Except TokenError Unit)
    (requestHeader : Option String) (filterChain : EStateM Thrown σ Response) (s : σ) :
    ReadsBearer parseAndValidate requestHeader filterChain s ↔
      (∃ text, requestHeader = some ("Bearer " ++ text)) ∨
        ∀ pre rest, requestHeader = some (pre ++ "Bearer " ++ rest) →
          StringUtils.isBlank (some rest) = true := by
  rw [readsBearer_iff_parsedToken, ← isBlank_tokenOf_iff, ← parsedToken_eq_none_iff]
  constructor
  · intro h
    cases hparsed : parsedToken requestHeader with
    | none => exact .inr rfl
    | some token =>
      obtain ⟨hheader, -⟩ := (h token).mp hparsed
      exact .inl ⟨token, hheader⟩
  · rintro (⟨text, rfl⟩ | hnone) token
    · exact parsedToken_of_bearer text token
    · -- A header of the scheme would have had its token handed on.
      rw [hnone]
      refine iff_of_false (Option.some_ne_none token).symm ?_
      rintro ⟨rfl, hblank⟩
      rw [(parsedToken_of_bearer token token).mpr ⟨rfl, hblank⟩] at hnone
      cases hnone

/-! ## 4. A header of another scheme -/

/-- A `GET /tasks` with a token behind the `Bearer ` of a `Basic` header. -/
def basicArrival : Arrival := ⟨.getTasks, some "Basic Bearer a.b.c", fun _ => .ok ()⟩

/-- The filter hands that token on, and the request is served if it is
accepted. -/
theorem basic_header_parsed :
    (∀ token, ¬ IsBearer basicArrival.authorization token) ∧
    (doFilterInternal basicArrival.parseAndValidate basicArrival.authorization
      (TaskController.dispatch jpaRepository .getTasks) { store := H2.seeded }).state.parsed =
        some "a.b.c" ∧
    (serveJwt basicArrival H2.seeded).1.status = 200 ∧
    ¬ ReadsBearer basicArrival.parseAndValidate basicArrival.authorization
      (TaskController.dispatch jpaRepository .getTasks) H2.seeded := by
  have hscheme : ∀ token, ¬ IsBearer basicArrival.authorization token := by
    rintro token ⟨hheader, -⟩
    have hlist := congrArg String.toList (Option.some.inj hheader)
    rw [String.toList_append] at hlist
    have hprefix : "Bearer ".toList <+: "Basic Bearer a.b.c".toList := ⟨token.toList, hlist.symm⟩
    exact absurd hprefix (by decide)
  have hparsed : parsedToken basicArrival.authorization = some "a.b.c" := by decide
  refine ⟨hscheme, ?_, by decide, fun h => ?_⟩
  · rw [doFilterInternal_parsed, hparsed]
  · exact hscheme "a.b.c" ((readsBearer_iff_parsedToken.mp h "a.b.c").mp hparsed)

end SpiffeTasks
