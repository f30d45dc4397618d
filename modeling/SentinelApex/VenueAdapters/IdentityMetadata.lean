import SentinelApex.Lib.Separated
import SentinelApex.VenueAdapters.MarketIdentity
import Mathlib.Data.List.DropRight

/-!
# Market identities in metadata

A stored identity is read back by creating it again from its own fields. The fields of a created
identity are `Canonical`: its texts are trimmed, what could be derived is there, and the aliases are
complete. Creating it again changes nothing (`createCanonicalMarketIdentity_of_canonical`), so it
stays what it is from stage to stage (`createCanonicalMarketIdentity_handedOver`).
-/

namespace SentinelApex

/-! ## Trimmed texts -/

namespace Json

/-- The text neither starts nor ends with a space. -/
structure Trimmed (s : String) : Prop where
  head : s.toList.dropWhile isSpace = s.toList
  last : s.toList.rdropWhile isSpace = s.toList

theorem toList_trim (s : String) :
    (trim s).toList = (s.toList.dropWhile isSpace).rdropWhile isSpace :=
  String.toList_ofList

theorem trim_of_trimmed {s : String} (h : Trimmed s) : trim s = s := by
  rw [← String.toList_inj, toList_trim, h.head, h.last]

theorem trimmed_trim (s : String) : Trimmed (trim s) := by
  constructor <;> rw [toList_trim]
  · rw [List.dropWhile_eq_self_iff]
    intro hpos
    rw [(List.rdropWhile_prefix _ _).getElem hpos]
    exact List.dropWhile_get_zero_not _ s.toList _
  · exact List.rdropWhile_idempotent _ _

theorem isDigit_of_isSpace {c : Char} (hc : isSpace c = true) : c.isDigit = false := by
  by_contra hdigit
  have hrange : 48 ≤ c.toNat ∧ c.toNat ≤ 57 := by
    simpa [Char.isDigit, UInt32.le_iff_toNat_le] using hdigit
  simp [isSpace] at hc
  omega

theorem trimmed_indexKey (marketType : CanonicalMarketType) (i : ℤ) :
    Trimmed s!"{marketType.text}:{i}" := by
  have hall : ∀ c ∈ s!"{marketType.text}:{i}".toList, ¬isSpace c := by
    intro c hc hspace
    have hindex : c ∉ (Int.repr i).toList := Separated.notMem_intRepr (isDigit_of_isSpace hspace)
      (by rintro rfl; exact absurd hspace (by decide)) i
    have htype : ∀ c ∈ marketType.text.toList ++ [':'], ¬isSpace c := by
      cases marketType <;> simp [CanonicalMarketType.text, isSpace]
    exact htype c (by simpa [toString, hindex] using hc) hspace
  exact ⟨List.dropWhile_eq_self_iff.2 fun _ => hall _ (List.getElem_mem _),
    List.rdropWhile_eq_self_iff.2 fun _ => hall _ (List.getLast_mem _)⟩

theorem trimmed_perpSymbol {asset : String} (h : Trimmed asset) (hne : asset.toList ≠ []) :
    Trimmed s!"{asset}-PERP" := by
  obtain ⟨c, cs, hasset⟩ := List.exists_cons_of_ne_nil hne
  have hhead := List.dropWhile_eq_self_iff.1 h.head (by simp [hasset])
  refine ⟨List.dropWhile_eq_self_iff.2 fun _ => ?_, List.rdropWhile_eq_self_iff.2 fun _ => ?_⟩
  · simpa [toString, hasset] using hhead
  · simp [toString]
    decide

end Json

/-! ## Created identities -/

/-- The text is what `stringValue` makes of it. -/
abbrev Clean (v : Option String) : Prop := stringValue v = v

theorem stringValue_some (s : String) :
    stringValue (some s) = if Json.trim s = "" then none else some (Json.trim s) := rfl

theorem clean_some_iff {s : String} : Clean (some s) ↔ Json.Trimmed s ∧ s.toList ≠ [] := by
  rw [Clean, stringValue_some, Ne, String.toList_eq_nil_iff]
  constructor
  · intro h
    split_ifs at h with hempty
    have htrim : Json.trim s = s := Option.some.inj h
    exact ⟨htrim ▸ Json.trimmed_trim s, htrim ▸ hempty⟩
  · rintro ⟨htrimmed, hne⟩
    rw [Json.trim_of_trimmed htrimmed, if_neg hne]

theorem clean_stringValue (v : Option String) : Clean (stringValue v) := by
  cases v with
  | none => rfl
  | some s =>
    rw [stringValue_some]
    split_ifs with hempty
    · rfl
    · exact clean_some_iff.2 ⟨Json.trimmed_trim s, String.toList_eq_nil_iff.not.2 hempty⟩

theorem Clean.or {v v' : Option String} (h : Clean v) (h' : Clean v') : Clean (v.or v') := by
  cases v with
  | none => exact h'
  | some s => exact h

theorem clean_indexKey (marketType : CanonicalMarketType) (marketIndex : Option ℤ) :
    Clean (canonicalMarketIndexKey marketType marketIndex) := by
  rw [canonicalMarketIndexKey]
  split_ifs
  · rfl
  · cases marketIndex with
    | none => rfl
    | some i => exact clean_some_iff.2 ⟨Json.trimmed_indexKey marketType i, by simp [toString]⟩

theorem Clean.deriveMarketSymbol {asset : Option String} (h : Clean asset)
    (marketType : CanonicalMarketType) : Clean (deriveMarketSymbol asset marketType) := by
  cases marketType with
  | unknown => rfl
  | spot => exact h
  | perp =>
    cases asset with
    | none => rfl
    | some a =>
      obtain ⟨htrimmed, hne⟩ := clean_some_iff.1 h
      exact clean_some_iff.2 ⟨Json.trimmed_perpSymbol htrimmed hne, by simp [toString]⟩

/-! ### Aliases -/

section Aliases

variable {values seen : List (Option String)}

theorem uniqueAliases_concat (v : Option String) :
    uniqueAliases (values ++ [v]) = match v with
      | some s => if (uniqueAliases values).contains s then uniqueAliases values
        else uniqueAliases values ++ [s]
      | none => uniqueAliases values := by
  rw [uniqueAliases, List.foldl_append]
  rfl

theorem mem_uniqueAliases {s : String} (h : some s ∈ values) : s ∈ uniqueAliases values := by
  induction values using List.reverseRecOn with
  | nil => cases h
  | append_singleton values v ih =>
    rw [uniqueAliases_concat]
    cases v <;> grind

theorem uniqueAliases_append (hvalues : ∀ s, some s ∈ values → s ∈ uniqueAliases seen) :
    uniqueAliases (seen ++ values) = uniqueAliases seen := by
  induction values using List.reverseRecOn with
  | nil => rw [List.append_nil]
  | append_singleton values v ih =>
    rw [← List.append_assoc, uniqueAliases_concat,
      ih fun s hs => hvalues s (List.mem_append_left _ hs)]
    cases v with
    | none => rfl
    | some s => exact if_pos (by simpa using hvalues s (by simp))

theorem uniqueAliases_map_some (values : List (Option String)) :
    uniqueAliases ((uniqueAliases values).map some) = uniqueAliases values := by
  induction values using List.reverseRecOn with
  | nil => rfl
  | append_singleton values v ih =>
    rw [uniqueAliases_concat]
    cases v with
    | none => exact ih
    | some s =>
      dsimp only
      split_ifs with hseen
      · exact ih
      · rw [List.map_append, List.map_singleton, uniqueAliases_concat, ih]
        exact if_neg hseen

end Aliases

/-! ### Creating an identity again -/

/-- The fields of an identity are what creating it again makes of them. -/
structure Canonical (identity : CanonicalMarketIdentity) : Prop where
  venueId : Clean identity.venueId
  asset : Clean identity.asset
  marketKey : Clean identity.marketKey
  marketSymbol : Clean identity.marketSymbol
  marketName : Clean identity.marketName
  index : identity.marketIndex.or (parseMarketIndexFromKey identity.marketKey) =
    identity.marketIndex
  key : identity.marketKey.or (canonicalMarketIndexKey identity.marketType identity.marketIndex) =
    identity.marketKey
  symbol : identity.marketSymbol.or (identity.marketName.or
    (deriveMarketSymbol identity.asset identity.marketType)) = identity.marketSymbol
  distinct : uniqueAliases (identity.aliases.map some) = identity.aliases
  complete : ∀ s, some s ∈ [identity.marketSymbol, identity.marketKey,
    canonicalAssetTypeKey identity.marketType identity.asset] → s ∈ identity.aliases
  normalized : normalizeConfidence identity.marketType identity.marketIndex identity.marketKey
    identity.marketSymbol identity.asset identity.provenance =
      (identity.confidence, identity.normalizedKey, identity.normalizedKeyType)

theorem canonical_createCanonicalMarketIdentity (input : CanonicalMarketIdentityInput) :
    Canonical (createCanonicalMarketIdentity input) := by
  have hkey := clean_stringValue input.marketKey
  have hname := clean_stringValue input.marketName
  have hasset := clean_stringValue input.asset
  refine
    { venueId := clean_stringValue _
      asset := hasset
      marketKey := hkey.or (clean_indexKey _ _)
      marketSymbol := (clean_stringValue _).or (hname.or (hasset.deriveMarketSymbol _))
      marketName := hname
      index := ?_
      key := ?_
      symbol := ?_
      distinct := uniqueAliases_map_some _
      complete := fun s hs => mem_uniqueAliases (List.mem_append_right _ hs)
      normalized := rfl }
  · dsimp only [createCanonicalMarketIdentity]
    cases hindex : input.marketIndex.integerValue.or
      (parseMarketIndexFromKey (stringValue input.marketKey)) with
    | some i => rfl
    | none => simpa [canonicalMarketIndexKey] using (Option.or_eq_none_iff.1 hindex).2
  all_goals
    dsimp only [createCanonicalMarketIdentity]
    rw [Option.or_assoc, Option.or_self]

/-- The fields of an identity, to create it again. -/
def CanonicalMarketIdentity.input (identity : CanonicalMarketIdentity) :
    CanonicalMarketIdentityInput where
  venueId := identity.venueId
  asset := identity.asset
  marketType := .str identity.marketType.text
  marketIndex := (identity.marketIndex.map fun i => Json.num i).getD .null
  marketKey := identity.marketKey
  marketSymbol := identity.marketSymbol
  marketName := identity.marketName
  aliases := identity.aliases
  provenance := some identity.provenance
  capturedAtStage := identity.capturedAtStage
  source := identity.source
  notes := identity.notes

theorem integerValue_marketIndex (marketIndex : Option ℤ) :
    ((marketIndex.map fun i => Json.num i).getD .null).integerValue = marketIndex := by
  cases marketIndex with
  | none => rfl
  | some i => simp [Json.integerValue, Json.truncate, Int.floor_neg]

theorem normalizeCanonicalMarketType_text (marketType : CanonicalMarketType) :
    normalizeCanonicalMarketType (.str marketType.text) = marketType := by
  cases marketType <;> decide +kernel

variable {identity : CanonicalMarketIdentity} {defaults : CanonicalMarketIdentityInput}

theorem createCanonicalMarketIdentity_of_canonical (h : Canonical identity) :
    createCanonicalMarketIdentity identity.input = identity := by
  have haliases := uniqueAliases_append (h.distinct.symm ▸ h.complete)
  simp only [createCanonicalMarketIdentity, CanonicalMarketIdentity.input,
    integerValue_marketIndex, normalizeCanonicalMarketType_text, Option.getD_some,
    h.venueId, h.asset, h.marketKey, h.marketSymbol, h.marketName, h.index, h.key,
    h.symbol, h.normalized, haliases, h.distinct]

/-! ## Metadata -/

theorem stringItems_map_str (items : List String) :
    stringItems (some (.arr (items.map .str))) = some items := by
  simp [stringItems, List.filterMap_map]

theorem provenanceOf_text (provenance : MarketIdentityProvenance) :
    provenanceOf (some (.str provenance.text)) = some provenance := by
  cases provenance <;> decide +kernel

theorem captureStageOf_text (stage : MarketIdentityCaptureStage) :
    captureStageOf (some (.str stage.text)) = some stage := by
  cases stage <;> decide +kernel

theorem get?_attach_marketIdentity (metadata : Metadata) (identity : CanonicalMarketIdentity) :
    (attachCanonicalMarketIdentityToMetadata metadata (some identity)).get? "marketIdentity" =
      some identity.toJson := by
  simp only [attachCanonicalMarketIdentityToMetadata]
  split_ifs
  all_goals
    simp (disch := decide) only [OrderedMap.get?_set_of_ne, Metadata.get?_setSome_of_ne,
      OrderedMap.get?_set_self]

/-- Reading a stored identity creates it again from its fields. -/
theorem readCanonicalMarketIdentity_attach (h : Canonical identity)
    (hsource : Clean (some identity.source)) (metadata : Metadata)
    (hvenueId : identity.venueId.or defaults.venueId = identity.venueId)
    (hasset : identity.asset.or defaults.asset = identity.asset) :
    readCanonicalMarketIdentityFromMetadata
      (attachCanonicalMarketIdentityToMetadata metadata (some identity)) defaults =
        some identity := by
  have hfield (v : Option String) : (Json.ofOption v).stringValue = stringValue v := rfl
  have hsource' : (Json.str identity.source).stringValue = some identity.source := hsource
  rw [readCanonicalMarketIdentityFromMetadata, get?_attach_marketIdentity]
  refine congrArg some (Eq.trans ?_ (createCanonicalMarketIdentity_of_canonical h))
  rw [CanonicalMarketIdentity.input]
  simp [OrderedMap.ofList, OrderedMap.get?_set, Metadata.getOr, hfield, h.venueId, h.asset,
    h.marketKey, h.marketSymbol, h.marketName, hsource', hvenueId, hasset, stringItems_map_str,
    provenanceOf_text, captureStageOf_text]

theorem Canonical.capture (h : Canonical identity) (stage : MarketIdentityCaptureStage)
    (source : String) : Canonical (captureCanonicalMarketIdentity identity stage source) :=
  { h with }

/-! ### From stage to stage -/

/-- What a stage does with the identity it is handed: it captures it, stores it in its own
metadata, and the next stage reads it from there. -/
structure IdentityStage where
  metadata : Metadata
  capturedAtStage : MarketIdentityCaptureStage
  source : String
  defaults : CanonicalMarketIdentityInput

namespace IdentityStage

def capture (identity : CanonicalMarketIdentity) (s : IdentityStage) : CanonicalMarketIdentity :=
  captureCanonicalMarketIdentity identity s.capturedAtStage s.source

def handOver (identity : CanonicalMarketIdentity) (s : IdentityStage) :
    Option CanonicalMarketIdentity :=
  readCanonicalMarketIdentityFromMetadata
    (attachCanonicalMarketIdentityToMetadata s.metadata (some (s.capture identity))) s.defaults

/-- The stage names its source, and its defaults hold no venue or asset that the identity lacks. -/
structure Fits (identity : CanonicalMarketIdentity) (s : IdentityStage) : Prop where
  source : Clean (some s.source)
  venueId : identity.venueId.or s.defaults.venueId = identity.venueId
  asset : identity.asset.or s.defaults.asset = identity.asset

theorem handOver_of_canonical {s : IdentityStage} (h : Canonical identity) (hs : s.Fits identity) :
    s.handOver identity = s.capture identity :=
  readCanonicalMarketIdentity_attach (h.capture _ _) hs.source _ hs.venueId hs.asset

theorem foldlM_handOver {stages : List IdentityStage} (h : Canonical identity)
    (hstages : ∀ s ∈ stages, s.Fits identity) :
    stages.foldlM handOver identity = some (stages.foldl capture identity) := by
  induction stages generalizing identity with
  | nil => rfl
  | cons s stages ih =>
    rw [List.foldlM_cons, handOver_of_canonical h (hstages s List.mem_cons_self)]
    refine ih (h.capture _ _) fun s' hs' => ?_
    exact { hstages s' (List.mem_cons_of_mem _ hs') with }

end IdentityStage

/-- A created identity handed from stage to stage arrives as it was created, with the last stage
and source noted: nothing is lost in the metadata, and nothing is derived a second time. -/
theorem createCanonicalMarketIdentity_handedOver (input : CanonicalMarketIdentityInput)
    {stages : List IdentityStage}
    (hstages : ∀ s ∈ stages, s.Fits (createCanonicalMarketIdentity input)) :
    stages.foldlM (fun identity s => s.handOver identity) (createCanonicalMarketIdentity input) =
      some (stages.foldl IdentityStage.capture (createCanonicalMarketIdentity input)) :=
  IdentityStage.foldlM_handOver (canonical_createCanonicalMarketIdentity input) hstages

/-- The market of a planned order reaches the fill of its runtime order. -/
theorem createCanonicalMarketIdentity_handedOver_fill :
    let planned := createCanonicalMarketIdentity
      { asset := some " SOL", marketType := .str "perpetual", marketIndex := .num 0
        capturedAtStage := .carryPlannedOrder, source := "carry_action_creation" }
    let stages := [.runtimeOrder, .fill].map fun capturedAtStage =>
      IdentityStage.mk OrderedMap.empty capturedAtStage "runtime"
        { asset := some "SOL", capturedAtStage, source := "runtime" }
    stages.foldlM (fun identity s => s.handOver identity) planned =
      some (stages.foldl IdentityStage.capture planned) := by
  refine createCanonicalMarketIdentity_handedOver _ (List.forall_mem_cons.2 ⟨?_,
    List.forall_mem_singleton.2 ?_⟩)
  all_goals exact ⟨by decide +kernel, by decide +kernel, by decide +kernel⟩

end SentinelApex
