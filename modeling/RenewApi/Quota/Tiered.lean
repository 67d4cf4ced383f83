import Mathlib.Algebra.Order.Group.Int
import RenewApi.Convert.Chunks

/-! # Token counts of a tiered price

`BuildTieredTokenParams` of `service/tiered_settle.go`, over exact counts. Prompt and completion
counts are totals, unless the usage is Claude-style, where the prompt count is the text alone. -/

namespace RenewApi.Quota

open RenewApi.Convert (Usage)

/-- The variables of a billing expression that stand for a part of the totals. -/
inductive PriceVar
  | cr | cc | cc1h | img | ai | imgO | ao
  deriving DecidableEq

structure TokenParams where
  p : Int
  c : Int
  len : Int
  cr : Int
  cc : Int
  cc1h : Int
  img : Int
  imgO : Int
  ai : Int
  ao : Int
  deriving DecidableEq

/-- The input parts that are priced on their own. -/
def TokenParams.usedInput (t : TokenParams) (used : PriceVar → Bool) : Int :=
  (if used .cr then t.cr else 0) + (if used .cc then t.cc else 0) + (if used .cc1h then t.cc1h else 0) +
    (if used .img then t.img else 0) + (if used .ai then t.ai else 0)

/-- The output parts that are priced on their own. -/
def TokenParams.usedOutput (t : TokenParams) (used : PriceVar → Bool) : Int :=
  (if used .imgO then t.imgO else 0) + (if used .ao then t.ao else 0)

/-- The counts as the usage reports them. -/
def reported (u : Usage) : TokenParams :=
  let anthropic := u.usageSemantic = "anthropic"
  { p := u.promptTokens, c := u.completionTokens, len := u.promptTokens
    cr := u.promptTokensDetails.cachedTokens
    cc :=
      if anthropic then u.claudeCacheCreation5mTokens
      else u.promptTokensDetails.cacheCreationTokensTotal
    cc1h := if anthropic then u.claudeCacheCreation1hTokens else 0
    img := u.promptTokensDetails.imageTokens, imgO := u.completionTokenDetails.imageTokens
    ai := u.promptTokensDetails.audioTokens, ao := u.completionTokenDetails.audioTokens }

section

variable (u : Usage) (claude : Bool)

/-- The input context: the prompt, with the cache of a Claude-style usage. -/
def inputLen : Int :=
  if claude then (reported u).p + (reported u).cr + (reported u).cc + (reported u).cc1h
  else (reported u).p

/-- **`BuildTieredTokenParams`**: what is priced on its own is taken out of the totals, unless the
usage is Claude-style. -/
def buildTieredTokenParams (used : PriceVar → Bool) : TokenParams :=
  let t := reported u
  { t with
    p := max (if claude then t.p else t.p - t.usedInput used) 0
    c := max (if claude then t.c else t.c - t.usedOutput used) 0
    len := inputLen u claude }

/-! ## Every token once -/

/-- **Every prompt token is counted once**, and nothing is negative. -/
structure CountsOnce (used : PriceVar → Bool) (t : TokenParams) : Prop where
  input : claude = false → t.usedInput used ≤ u.promptTokens → t.p + t.usedInput used = u.promptTokens
  output : claude = false → t.usedOutput used ≤ u.completionTokens →
    t.c + t.usedOutput used = u.completionTokens
  creation : claude = true → t.cc + t.cc1h = u.promptTokensDetails.cacheCreationTokensTotal
  context : claude = true → t.len = u.promptTokens + u.promptTokensDetails.cachedTokens +
    u.promptTokensDetails.cacheCreationTokensTotal
  nonneg : 0 ≤ t.p ∧ 0 ≤ t.c ∧ 0 ≤ t.len ∧ 0 ≤ t.cr ∧ 0 ≤ t.cc ∧ 0 ≤ t.cc1h ∧ 0 ≤ t.img ∧ 0 ≤ t.imgO ∧
    0 ≤ t.ai ∧ 0 ≤ t.ao

/-- The counts that the parameters copy are not negative. -/
def NonNegative : Prop :=
  let t := reported u
  0 ≤ inputLen u claude ∧ 0 ≤ t.cr ∧ 0 ≤ t.cc ∧ 0 ≤ t.cc1h ∧ 0 ≤ t.img ∧ 0 ≤ t.imgO ∧ 0 ≤ t.ai ∧ 0 ≤ t.ao

end

theorem creation_of_eq {u : Usage} (h : u.usageSemantic = "anthropic") :
    (reported u).cc + (reported u).cc1h =
      u.claudeCacheCreation5mTokens + u.claudeCacheCreation1hTokens := by
  simp [reported, h]

/-- **Every prompt token is counted once** exactly if no count is negative and the parts from which
a Claude-style cache creation is read add up to the total. -/
theorem tiered_counts_iff (u : Usage) (claude : Bool) (used : PriceVar → Bool) :
    CountsOnce u claude used (buildTieredTokenParams u claude used) ↔
      (claude = true → u.usageSemantic = "anthropic" →
        u.claudeCacheCreation5mTokens + u.claudeCacheCreation1hTokens =
          u.promptTokensDetails.cacheCreationTokensTotal) ∧ NonNegative u claude := by
  constructor
  · intro h
    obtain ⟨-, -, hrest⟩ := h.nonneg
    exact ⟨fun hclaude hsplit => (creation_of_eq hsplit).symm.trans (h.creation hclaude), hrest⟩
  · rintro ⟨hsplit, hnonneg⟩
    have hcreation : claude = true → (reported u).cc + (reported u).cc1h =
        u.promptTokensDetails.cacheCreationTokensTotal := by
      intro hclaude
      by_cases hsemantic : u.usageSemantic = "anthropic"
      · rw [creation_of_eq hsemantic, hsplit hclaude hsemantic]
      · simp [reported, hsemantic]
    refine ⟨?_, ?_, hcreation, fun hclaude => ?_, le_max_right _ _, le_max_right _ _, hnonneg⟩
    · rintro rfl hfits
      change max (u.promptTokens - (reported u).usedInput used) 0 + (reported u).usedInput used = _
      change (reported u).usedInput used ≤ u.promptTokens at hfits
      omega
    · rintro rfl hfits
      change max (u.completionTokens - (reported u).usedOutput used) 0 + (reported u).usedOutput used = _
      change (reported u).usedOutput used ≤ u.completionTokens at hfits
      omega
    · show inputLen u claude = _
      rw [inputLen, if_pos hclaude, ← hcreation hclaude]
      exact add_assoc _ _ _

/-- **A total that the upstream did not split is priced at nothing**: a thousand tokens of cache
creation are in neither count. -/
theorem unsplit_creation_lost :
    let u : Usage :=
      { promptTokens := 10, completionTokens := 5
        promptTokensDetails := { cachedCreationTokens := 1000 }, usageSemantic := "anthropic" }
    let t := buildTieredTokenParams u true fun _ => true
    u.promptTokensDetails.cacheCreationTokensTotal = 1000 ∧ t.cc + t.cc1h = 0 ∧ t.len = 10 := by
  decide

end RenewApi.Quota
