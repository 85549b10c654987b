import Mathlib.Data.List.Dedup
import Tvic.Providers.TtsFailoverSelection

/-!
# Preflight and dispatch

What `supportsTtsSelection` has accepted, `startFallback` sends to the fallback, except where the two
look at different selections. With variants they map alike, and only a language that the call claims
without naming one is looked for in different places. Without variants preflight asks the fallback
about its own model and voice, dispatch about those of the primary.
-/
namespace Tvic

open Lib

/-! ## Selections -/

theorem orElse_twice {α : Type} (given default : Option α) :
    ((given <|> default) <|> default) = (given <|> default) := by
  cases given <;> cases default <;> rfl

theorem orElse_own {α : Type} {dropped : Bool} {declared explicit own : Option α}
    (only : dropped = true → declared = none ∧ explicit = none) :
    ((if dropped then none else declared <|> explicit <|> none <|> own) <|> own) =
      (declared <|> explicit <|> own) := by
  cases dropped with
  | true =>
    obtain ⟨rfl, rfl⟩ := only rfl
    cases own <;> rfl
  | false => cases declared <;> cases explicit <;> cases own <;> rfl

theorem effectiveProviderSelection_twice (provider : TextToSpeechProvider)
    (selection : TtsProviderSelection) :
    effectiveProviderSelection provider (effectiveProviderSelection provider selection) =
      effectiveProviderSelection provider selection := by
  simp only [effectiveProviderSelection, orElse_twice]

theorem effectiveProviderSelection_withProviderDefaults (provider : TextToSpeechProvider)
    (request : TtsSynthesisRequest) :
    effectiveProviderSelection provider
        (selectionFromRequest (withProviderDefaults request provider)) =
      effectiveProviderSelection provider (selectionFromRequest request) := by
  simp only [effectiveProviderSelection, selectionFromRequest, withProviderDefaults, orElse_twice]

section Defaults

variable (request : TtsSynthesisRequest) (provider : TextToSpeechProvider)

@[simp] theorem withProviderDefaults_language :
    (withProviderDefaults request provider).language = request.language := rfl

@[simp] theorem withProviderDefaults_speed :
    (withProviderDefaults request provider).speed = request.speed := rfl

@[simp] theorem withProviderDefaults_format :
    (withProviderDefaults request provider).format = request.format := rfl

@[simp] theorem withProviderDefaults_timestamps :
    (withProviderDefaults request provider).timestamps = request.timestamps := rfl

@[simp] theorem withProviderDefaults_selectionContext :
    (withProviderDefaults request provider).selectionContext = request.selectionContext := rfl

end Defaults

theorem sameSpeed_self {speed : Option JsNumber} :
    sameSpeed speed speed = true ↔ speed ≠ some .nan := by
  cases speed with
  | none => simp [sameSpeed]
  | some number =>
    by_cases proper : number = .nan
    · subst proper; simp [sameSpeed, JsNumber.same]
    · simp [sameSpeed, JsNumber.same_self proper, proper]

section Evaluation

variable (intl : TtsIntl) (provider : TextToSpeechProvider)

theorem failoverSelectionIssues_congr {left right : TtsProviderSelection}
    (effective : effectiveProviderSelection provider left =
      effectiveProviderSelection provider right)
    (voice : left.voice.isSome = right.voice.isSome) (callerSelected explicitlySelected : Bool) :
    failoverSelectionIssues intl provider left callerSelected explicitlySelected =
      failoverSelectionIssues intl provider right callerSelected explicitlySelected := by
  simp only [failoverSelectionIssues, evaluateFailoverSelection, effective, voice]

theorem assertFallbackRequestSupported_isOk {request : TtsSynthesisRequest}
    (format : (provider.capabilities.outputFormats.getD []).any
      (sameAudioFormat · request.format) = true) (callerSelected explicitlySelected : Bool) :
    assertFallbackRequestSupported intl provider request callerSelected explicitlySelected =
        .ok () ↔
      failoverSelectionIssues intl provider
        (effectiveProviderSelection provider (selectionFromRequest request)) callerSelected
        explicitlySelected = [] := by
  unfold assertFallbackRequestSupported
  rw [if_pos format]
  split
  · rename_i none_found
    simp [none_found]
  · rename_i issue rest found
    simp [found]

end Evaluation

/-! ## Variants -/

section Variants

variable {intl : TtsIntl} {languageMatch : TtsLanguageMatch} {fallback : TextToSpeechProvider}
  {selection : TtsProviderSelection} {callerSelected explicitlySelected : Bool}
  {variant : TtsFailoverRequestVariant}

@[simp] theorem resolveVariant_model :
    (resolveVariant selection fallback callerSelected explicitlySelected variant).selection.model =
      (variant.fallback.model <|> fallback.configuredModel) := by
  simp [resolveVariant, effectiveProviderSelection, emptySelection]

@[simp] theorem resolveVariant_voice :
    (resolveVariant selection fallback callerSelected explicitlySelected variant).selection.voice =
      (variant.fallback.voice <|> fallback.configuredVoice) := by
  simp [resolveVariant, effectiveProviderSelection, emptySelection]

theorem effectiveProviderSelection_resolveVariant :
    effectiveProviderSelection fallback
        (resolveVariant selection fallback callerSelected explicitlySelected variant).selection =
      { model := variant.fallback.model <|> fallback.configuredModel
        voice := variant.fallback.voice <|> fallback.configuredVoice
        language := variant.fallback.language <|>
          (if explicitlySelected then selection.language else none) <|> fallback.configuredLanguage
        speed := selection.speed } := by
  simp only [resolveVariant, effectiveProviderSelection, emptySelection,
    TtsProviderSelection.mk.injEq, and_true]
  refine ⟨orElse_twice _ _, orElse_twice _ _, ?_⟩
  · apply orElse_own
    intro dropped
    simp only [Bool.and_eq_true, Bool.not_eq_true', Option.isNone_iff_eq_none] at dropped
    obtain ⟨⟨-, implicit⟩, undeclared⟩ := dropped
    simp [implicit, undeclared]

theorem matchesSelection_target {actual : TtsProviderSelection}
    (model : actual.model = (variant.fallback.model <|> fallback.configuredModel))
    (voice : actual.voice = (variant.fallback.voice <|> fallback.configuredVoice)) :
    matchesSelection intl languageMatch
      (if variant.fallback.language.isSome then
        { actual with language := variant.fallback.language } else actual)
      (some variant.fallback.selection) = true := by
  simp only [matchesSelection, List.all_eq_true]
  intro field declared
  have stated := (List.mem_filter.mp declared).2
  cases field with
  | model =>
    obtain ⟨name, named⟩ := Option.isSome_iff_exists.mp stated
    have declaredModel : variant.fallback.model = some name := named
    split <;> simp [selectionValueMatches, TtsFallbackSettings.selection, model, declaredModel]
  | voice =>
    obtain ⟨name, named⟩ := Option.isSome_iff_exists.mp stated
    have declaredVoice : variant.fallback.voice = some name := named
    split <;> simp [selectionValueMatches, TtsFallbackSettings.selection, voice, declaredVoice]
  | language =>
    obtain ⟨tag, named⟩ := Option.isSome_iff_exists.mp stated
    have declaredLanguage : variant.fallback.language = some tag := named
    simp [selectionValueMatches, TtsFallbackSettings.selection, declaredLanguage,
      sameTtsLanguage_self]
  | speed => cases stated

end Variants

/-! ## Dispatch -/

namespace TtsFailoverProviderOptions

variable (intl : TtsIntl) (options : TtsFailoverProviderOptions) (request : TtsSynthesisRequest)

def callerSelected : Bool := languageWasCallerSelected request.language request.selectionContext

def explicitlySelected : Bool :=
  languageWasExplicitlySelected request.language request.selectionContext

def statedLanguage : Option Text := if explicitlySelected request then request.language else none

/-- The selection an identity mapping sends. -/
def identitySelection : TtsProviderSelection where
  model := request.model <|> options.primary.configuredModel
  voice := request.voice <|> options.primary.configuredVoice
  language := statedLanguage request
  speed := request.speed

/-- The request with the primary's defaults is the fallback's request with its own defaults. -/
def fillsNothing : Prop :=
  (request.model.isSome ∨ options.primary.configuredModel = none ∨
      options.primary.configuredModel = options.fallback.configuredModel) ∧
    (request.voice.isSome ∨
      (options.primary.configuredVoice = none ∧ options.fallback.configuredVoice = none))

/-- When the selection that preflight has checked is the one that will be sent. -/
def PreflightCovers : Prop :=
  request.speed ≠ some .nan ∧
    match options.fallbackRequestVariants with
    | none =>
      options.fillsNothing request ∨
        failoverSelectionIssues intl options.fallback
          (effectiveProviderSelection options.fallback (options.identitySelection request))
          (callerSelected request) (explicitlySelected request) = []
    | some variants =>
      callerSelected request → request.language = none →
        ∃ variant ∈ variants,
          matchesSelection intl options.languageMatch
              (effectiveProviderSelection options.primary (selectionFromRequest request))
              variant.condition = true ∧
            admitsCallerLanguage intl options.languageMatch true options.primary.configuredLanguage
              variant = true

variable {intl options request}

theorem fallbackLanguage_unchanged (language variantLanguage : Option Text) (explicit : Bool) :
    fallbackLanguage language language variantLanguage explicit false =
      (variantLanguage <|> if explicit then language else none) := by
  cases variantLanguage <;> cases explicit <;> cases language <;> simp [fallbackLanguage]

theorem assertCallerLanguage_same (callerSelected : Bool) (language : Option Text) :
    options.assertCallerLanguage intl callerSelected language language = .ok () := by
  cases callerSelected <;> cases language <;>
    simp [assertCallerLanguage, assertCallerLanguageCompatible, sameTtsLanguage_self]

theorem prepareFallbackRequest_isOk {model voice : Option Text}
    (maps : options.mapFallbackRequest intl (withProviderDefaults request options.primary) =
      .ok { request with model := model, voice := voice })
    (format : (options.fallback.capabilities.outputFormats.getD []).any
      (sameAudioFormat · request.format) = true) :
    (options.prepareFallbackRequest intl request).isOk = true ↔
      request.speed ≠ some .nan ∧
        ∃ language,
          options.variantLanguage intl { request with model := model, voice := voice }
              (effectiveProviderSelection options.primary (selectionFromRequest request)) false
              (callerSelected request) = .ok language ∧
            failoverSelectionIssues intl options.fallback
              (effectiveProviderSelection options.fallback
                ⟨model, voice, language <|> statedLanguage request, request.speed⟩)
              (callerSelected request) (explicitlySelected request || language.isSome) = [] := by
  by_cases proper : request.speed ≠ some .nan
  · have mappedOk : assertMappedRequest (withProviderDefaults request options.primary)
        { request with model := model, voice := voice } options.fallback.name = .ok () := by
      have same : sameSpeed request.speed request.speed = true := sameSpeed_self.mpr proper
      simp [assertMappedRequest, sameAudioFormat, same]
    simp only [prepareFallbackRequest, maps, mappedOk, bind, Except.bind,
      effectiveProviderSelection_withProviderDefaults, withProviderDefaults_language,
      withProviderDefaults_selectionContext, assertCallerLanguage_same, ne_eq, not_true_eq_false,
      decide_false, Bool.and_false, Bool.or_false, fallbackLanguage_unchanged, proper,
      not_false_eq_true, true_and]
    simp only [callerSelected, explicitlySelected, statedLanguage]
    cases options.variantLanguage intl { request with model := model, voice := voice }
        (effectiveProviderSelection options.primary (selectionFromRequest request)) false
        (languageWasCallerSelected request.language request.selectionContext) with
    | error failure => simp [Except.isOk, Except.toBool]
    | ok language =>
      -- What is left is the check of the fallback's request.
      have checked := @assertFallbackRequestSupported_isOk intl options.fallback
        { request with model := model, voice := voice, language := language <|> statedLanguage request }
        format (callerSelected request) (explicitlySelected request || language.isSome)
      simp only [Except.ok.injEq, exists_eq_left']
      constructor
      · intro opened
        split at opened
        · cases opened
        · rename_i supported
          exact checked.mp supported
      · intro none_found
        have supported := checked.mpr none_found
        split
        · rename_i refused
          cases refused.symm.trans supported
        · rfl
  · have mappedFails : ∃ failure, assertMappedRequest (withProviderDefaults request options.primary)
        { request with model := model, voice := voice } options.fallback.name = .error failure := by
      have differs : sameSpeed request.speed request.speed ≠ true :=
        fun same => proper (sameSpeed_self.mp same)
      simp [assertMappedRequest, sameAudioFormat, differs]
    obtain ⟨failure, mappedFails⟩ := mappedFails
    simp [prepareFallbackRequest, maps, mappedFails, bind, Except.bind, proper, Except.isOk,
      Except.toBool]

end TtsFailoverProviderOptions

/-! ## Dispatch through variants -/

section Targets

variable {intl : TtsIntl} {languageMatch : TtsLanguageMatch} {primary fallback : TextToSpeechProvider}
  {variants : List TtsFailoverRequestVariant} {request mapped : TtsSynthesisRequest} {name : Text}

open TtsFailoverProviderOptions in
theorem mapRequestWithFallbackVariants_ok
    (maps : mapRequestWithFallbackVariants intl languageMatch (withProviderDefaults request primary)
      primary fallback variants name = .ok mapped) :
    ∃ model voice, mapped = { request with model := model, voice := voice } ∧
      ∀ variant ∈ applicableVariants intl languageMatch variants
          (effectiveProviderSelection primary (selectionFromRequest request)) request.language
          (callerSelected request),
        (variant.fallback.model <|> fallback.configuredModel) = model ∧
          (variant.fallback.voice <|> fallback.configuredVoice) = voice := by
  simp only [mapRequestWithFallbackVariants, resolveFallbackSelectionEntries, List.map_map,
    effectiveProviderSelection_withProviderDefaults, withProviderDefaults_language,
    withProviderDefaults_selectionContext] at maps
  split at maps
  · cases maps
  · rename_i model voice targets
    cases maps
    refine ⟨model, voice, rfl, fun variant applicable => ?_⟩
    have listed : (variant.fallback.model <|> fallback.configuredModel,
        variant.fallback.voice <|> fallback.configuredVoice) ∈ [(model, voice)] := by
      rw [← targets]
      exact List.mem_dedup.mpr (List.mem_map.mpr ⟨variant, applicable, by simp⟩)
    simpa using List.mem_singleton.mp listed
  · cases maps

theorem assertMappedRequestMatchesVariant_eq {model voice : Option Text}
    {primarySelection : TtsProviderSelection} {callerSelected : Bool}
    (targets : ∀ variant ∈ applicableVariants intl languageMatch variants primarySelection
        primarySelection.language callerSelected,
      (variant.fallback.model <|> fallback.configuredModel) = model ∧
        (variant.fallback.voice <|> fallback.configuredVoice) = voice) :
    assertMappedRequestMatchesVariant intl languageMatch
        { request with model := model, voice := voice } variants fallback primarySelection false
        callerSelected =
      match applicableVariants intl languageMatch variants primarySelection
          primarySelection.language callerSelected with
      | [] =>
        .error (variantMismatch intl languageMatch variants
          (variants.filter fun variant =>
            matchesSelection intl languageMatch primarySelection variant.condition) []
          (effectiveProviderSelection fallback
            (selectionFromRequest { request with model := model, voice := voice })) fallback.name)
      | first :: rest => .ok ((first :: rest).findSome? (·.fallback.language)) := by
  have eligible : (variants.filter fun variant =>
        matchesSelection intl languageMatch primarySelection variant.condition).filter
        (admitsCallerLanguage intl languageMatch callerSelected primarySelection.language) =
      applicableVariants intl languageMatch variants primarySelection primarySelection.language
        callerSelected := by
    rw [List.filter_filter, applicableVariants]
    exact List.filter_congr fun _ _ => Bool.and_comm _ _
  have matching : (applicableVariants intl languageMatch variants primarySelection
        primarySelection.language callerSelected).filter (fun variant =>
          matchesSelection intl languageMatch
            (if variant.fallback.language.isSome then
              { effectiveProviderSelection fallback
                  (selectionFromRequest { request with model := model, voice := voice }) with
                language := variant.fallback.language }
            else
              effectiveProviderSelection fallback
                (selectionFromRequest { request with model := model, voice := voice }))
            (some variant.fallback.selection)) =
      applicableVariants intl languageMatch variants primarySelection primarySelection.language
        callerSelected := by
    refine List.filter_eq_self.mpr fun variant applicable => ?_
    obtain ⟨rfl, rfl⟩ := targets variant applicable
    exact matchesSelection_target (orElse_twice _ _) (orElse_twice _ _)
  simp only [assertMappedRequestMatchesVariant, eligible, Bool.false_eq_true, not_false_eq_true,
    true_and, matching]
  cases applicableVariants intl languageMatch variants primarySelection primarySelection.language
      callerSelected with
  | nil => simp
  | cons first rest => simp

end Targets

namespace TtsFailoverProviderOptions

variable {intl : TtsIntl} {options : TtsFailoverProviderOptions} {request : TtsSynthesisRequest}
  {variants : List TtsFailoverRequestVariant}

theorem applicable_of_primaryLanguage {languageMatch : TtsLanguageMatch}
    {primary : TextToSpeechProvider} {callerSelected : Bool} {variant : TtsFailoverRequestVariant}
    (used : variant ∈ applicableVariants intl languageMatch variants
      (effectiveProviderSelection primary (selectionFromRequest request))
      (request.language <|> primary.configuredLanguage) callerSelected) :
    variant ∈ applicableVariants intl languageMatch variants
      (effectiveProviderSelection primary (selectionFromRequest request)) request.language
      callerSelected := by
  simp only [applicableVariants, List.mem_filter, Bool.and_eq_true] at used ⊢
  refine ⟨used.1, used.2.1, ?_⟩
  cases stated : request.language with
  | none => simp [admitsCallerLanguage]
  | some language => simpa [stated] using used.2.2

theorem failoverSelectionIssues_resolveVariant (variant : TtsFailoverRequestVariant)
    (callerSelected : Bool) :
    failoverSelectionIssues intl options.fallback
        (effectiveProviderSelection options.fallback
          ⟨variant.fallback.model <|> options.fallback.configuredModel,
            variant.fallback.voice <|> options.fallback.configuredVoice,
            variant.fallback.language <|> statedLanguage request, request.speed⟩)
        callerSelected (explicitlySelected request || variant.fallback.language.isSome) =
      failoverSelectionIssues intl options.fallback
        (resolveVariant (selectionFromRequest request) options.fallback callerSelected
          (explicitlySelected request) variant).selection
        callerSelected (explicitlySelected request || variant.fallback.language.isSome) := by
  apply failoverSelectionIssues_congr
  · rw [effectiveProviderSelection_twice, effectiveProviderSelection_resolveVariant]
    simp only [effectiveProviderSelection, orElse_twice, selectionFromRequest, statedLanguage,
      TtsProviderSelection.mk.injEq, and_true, true_and]
    cases variant.fallback.language <;> cases explicitlySelected request <;>
      cases request.language <;> cases options.fallback.configuredLanguage <;> rfl
  · rw [resolveVariant_voice]
    simp only [effectiveProviderSelection, orElse_twice]

theorem prepareFallbackRequest_variants
    (declared : options.fallbackRequestVariants = some variants)
    (format : (options.fallback.capabilities.outputFormats.getD []).any
      (sameAudioFormat · request.format) = true)
    (accepted : options.supportsTtsSelection intl (selectionFromRequest request)
      request.selectionContext = true)
    (opened : options.opensPrimary intl request = true) :
    (options.prepareFallbackRequest intl request).isOk = true ↔
      request.speed ≠ some .nan ∧
        applicableVariants intl options.languageMatch variants
          (effectiveProviderSelection options.primary (selectionFromRequest request))
          (request.language <|> options.primary.configuredLanguage) (callerSelected request) ≠ [] := by
  simp only [opensPrimary, mapFallbackRequest, declared, Bool.and_eq_true] at opened
  obtain ⟨-, mapsTo⟩ := opened
  split at mapsTo
  case h_2 => cases mapsTo
  case h_1 mapped maps =>
  obtain ⟨model, voice, rfl, targets⟩ := mapRequestWithFallbackVariants_ok maps
  have mapsTo : options.mapFallbackRequest intl (withProviderDefaults request options.primary) =
      .ok { request with model := model, voice := voice } := by
    simpa only [mapFallbackRequest, declared] using maps
  rw [prepareFallbackRequest_isOk mapsTo format]
  refine and_congr_right fun _ => ?_
  -- Preflight has asked about every variant that applies.
  have asked : ∀ variant ∈ applicableVariants intl options.languageMatch variants
      (effectiveProviderSelection options.primary (selectionFromRequest request))
      (request.language <|> options.primary.configuredLanguage) (callerSelected request),
      failoverSelectionIssues intl options.fallback
        (effectiveProviderSelection options.fallback
          ⟨model, voice, variant.fallback.language <|> statedLanguage request, request.speed⟩)
        (callerSelected request)
        (explicitlySelected request || variant.fallback.language.isSome) = [] := by
    intro variant use
    have applicable := applicable_of_primaryLanguage use
    obtain ⟨rfl, rfl⟩ := targets variant applicable
    rw [failoverSelectionIssues_resolveVariant]
    simp only [supportsTtsSelection, supportsTtsFailoverSelection, declared,
      resolveFallbackSelectionEntries, Bool.and_eq_true, List.all_map] at accepted
    exact of_decide_eq_true (List.all_eq_true.mp accepted.2 variant applicable)
  simp only [variantLanguage, declared]
  rw [assertMappedRequestMatchesVariant_eq
    fun variant use => targets variant (applicable_of_primaryLanguage use)]
  change (∃ language, (match applicableVariants intl options.languageMatch variants
      (effectiveProviderSelection options.primary (selectionFromRequest request))
      (request.language <|> options.primary.configuredLanguage) (callerSelected request) with
      | [] => _
      | first :: rest => _ : Except _ _) = .ok language ∧ _) ↔ _
  generalize applicableVariants intl options.languageMatch variants
      (effectiveProviderSelection options.primary (selectionFromRequest request))
      (request.language <|> options.primary.configuredLanguage) (callerSelected request) = usable
    at asked ⊢
  cases usable with
  | nil => simp
  | cons first rest =>
    refine iff_of_true ⟨_, rfl, ?_⟩ (List.cons_ne_nil _ _)
    cases found : (first :: rest).findSome? (·.fallback.language) with
    | some language =>
      obtain ⟨variant, use, declares⟩ := List.exists_of_findSome?_eq_some found
      simpa [declares] using asked variant use
    | none =>
      have undeclared : first.fallback.language = none :=
        List.findSome?_eq_none_iff.mp found first List.mem_cons_self
      simpa [undeclared] using asked first List.mem_cons_self

theorem applicableVariants_primaryLanguage
    (applicable : applicableVariants intl options.languageMatch variants
      (effectiveProviderSelection options.primary (selectionFromRequest request)) request.language
      (callerSelected request) ≠ []) :
    applicableVariants intl options.languageMatch variants
        (effectiveProviderSelection options.primary (selectionFromRequest request))
        (request.language <|> options.primary.configuredLanguage) (callerSelected request) ≠ [] ↔
      (callerSelected request → request.language = none →
        ∃ variant ∈ variants,
          matchesSelection intl options.languageMatch
              (effectiveProviderSelection options.primary (selectionFromRequest request))
              variant.condition = true ∧
            admitsCallerLanguage intl options.languageMatch true options.primary.configuredLanguage
              variant = true) := by
  constructor
  · intro usable claimed unstated
    obtain ⟨variant, use⟩ := List.exists_mem_of_ne_nil _ usable
    simp only [applicableVariants, List.mem_filter, Bool.and_eq_true, claimed, unstated] at use
    exact ⟨variant, use.1, use.2.1, use.2.2⟩
  · intro claims
    cases stated : request.language with
    | some language => simpa [stated] using applicable
    | none =>
      cases claimed : callerSelected request with
      | true =>
        obtain ⟨variant, listed, conditionMet, admits⟩ := claims claimed stated
        refine List.ne_nil_of_mem (List.mem_filter.mpr ⟨listed, ?_⟩)
        simp only [Bool.and_eq_true]
        exact ⟨conditionMet, admits⟩
      | false =>
        -- Nobody's language is asked for, so the variants are those of preflight.
        obtain ⟨variant, use⟩ := List.exists_mem_of_ne_nil _ applicable
        have listed := List.mem_filter.mp use
        simp only [Bool.and_eq_true] at listed
        refine List.ne_nil_of_mem (List.mem_filter.mpr ⟨listed.1, ?_⟩)
        simp only [Bool.and_eq_true]
        refine ⟨listed.2.1, ?_⟩
        simp only [admitsCallerLanguage, Bool.not_false, Bool.true_or]
        split <;> rfl

theorem prepareFallbackRequest_identity (undeclared : options.fallbackRequestVariants = none)
    (format : (options.fallback.capabilities.outputFormats.getD []).any
      (sameAudioFormat · request.format) = true) :
    (options.prepareFallbackRequest intl request).isOk = true ↔
      request.speed ≠ some .nan ∧
        failoverSelectionIssues intl options.fallback
          (effectiveProviderSelection options.fallback (options.identitySelection request))
          (callerSelected request) (explicitlySelected request) = [] := by
  have maps : options.mapFallbackRequest intl (withProviderDefaults request options.primary) =
      .ok { request with
        model := request.model <|> options.primary.configuredModel
        voice := request.voice <|> options.primary.configuredVoice } := by
    simp only [mapFallbackRequest, undeclared, withProviderDefaults]
  rw [prepareFallbackRequest_isOk maps format]
  simp only [variantLanguage, undeclared, Except.ok.injEq, exists_eq_left', Option.isSome_none,
    Bool.or_false]
  rfl

theorem failoverSelectionIssues_fillsNothing (fills : options.fillsNothing request) :
    failoverSelectionIssues intl options.fallback
        (effectiveProviderSelection options.fallback (options.identitySelection request))
        (callerSelected request) (explicitlySelected request) =
      failoverSelectionIssues intl options.fallback
        { selectionFromRequest request with language := statedLanguage request }
        (callerSelected request) (explicitlySelected request) := by
  obtain ⟨models, voices⟩ := fills
  have model : ((request.model <|> options.primary.configuredModel) <|>
      options.fallback.configuredModel) =
      (request.model <|> options.fallback.configuredModel) := by
    rcases models with stated | unconfigured | same
    · obtain ⟨model, stated⟩ := Option.isSome_iff_exists.mp stated
      simp [stated]
    · simp [unconfigured]
    · rw [same, orElse_twice]
  have voice : ((request.voice <|> options.primary.configuredVoice) <|>
      options.fallback.configuredVoice) =
      (request.voice <|> options.fallback.configuredVoice) := by
    rcases voices with stated | ⟨unconfigured, -⟩
    · obtain ⟨voice, stated⟩ := Option.isSome_iff_exists.mp stated
      simp [stated]
    · simp [unconfigured]
  apply failoverSelectionIssues_congr
  · rw [effectiveProviderSelection_twice]
    simp only [effectiveProviderSelection, identitySelection, selectionFromRequest, model, voice]
  · simp only [effectiveProviderSelection, identitySelection, selectionFromRequest, voice]
    rcases voices with stated | ⟨-, unconfigured⟩
    · obtain ⟨voice, stated⟩ := Option.isSome_iff_exists.mp stated
      simp [stated]
    · simp [unconfigured]

theorem startFallback_isOpened {error : TtsPrimaryError}
    (timestamps : request.timestamps ≠ some true) (known : error.outcomeUnknown = false)
    (admits : (options.shouldFallback.getD fun error _ => defaultShouldFallback error) error
      request = true) :
    (options.startFallback intl error request).isOpened =
      (options.prepareFallbackRequest intl request).isOk := by
  simp only [startFallback, timestamps, false_and, if_false, known, admits, Bool.false_eq_true,
    not_true_eq_false, or_self]
  cases options.prepareFallbackRequest intl request <;> rfl

theorem fallback_format (created : options.creates intl = true)
    (format : (options.outputFormats.getD []).any (sameAudioFormat · request.format) = true) :
    (options.fallback.capabilities.outputFormats.getD []).any
      (sameAudioFormat · request.format) = true := by
  simp only [creates, Bool.and_eq_true] at created
  have compatible := created.1.1.1
  simp only [outputFormats] at format
  split at format
  · rename_i declared
    obtain ⟨fallbackFormats, declared⟩ := Option.isSome_iff_exists.mp declared
    cases primary : options.primary.capabilities.outputFormats with
    | none => simp [primary] at format
    | some primaryFormats =>
      rw [primary] at format
      simp only [compatibleOutputFormats, primary, declared, List.all_eq_true] at compatible
      obtain ⟨own, listed, same⟩ := List.any_eq_true.mp format
      obtain ⟨shared, offered, agree⟩ := List.any_eq_true.mp (compatible own listed)
      rw [declared]
      refine List.any_eq_true.mpr ⟨shared, offered, ?_⟩
      simp only [sameAudioFormat, decide_eq_true_eq] at same agree ⊢
      exact ⟨agree.1.symm.trans same.1, agree.2.1.symm.trans same.2.1,
        agree.2.2.symm.trans same.2.2⟩
  · simp at format

/-- An accepted request whose primary has failed is sent to the fallback exactly when preflight has
checked the selection that is sent. -/
theorem startFallback_opens {error : TtsPrimaryError} (created : options.creates intl = true)
    (format : (options.outputFormats.getD []).any (sameAudioFormat · request.format) = true)
    (timestamps : request.timestamps ≠ some true) (retriable : error.retriable = true)
    (operational : error.code ∉ nonOperationalProviderErrors)
    (known : error.outcomeUnknown = false)
    (policy : ∀ shouldFallback, options.shouldFallback = some shouldFallback →
      shouldFallback error request = true)
    (accepted : options.supportsTtsSelection intl (selectionFromRequest request)
      request.selectionContext = true)
    (opened : options.opensPrimary intl request = true) :
    (options.startFallback intl error request).isOpened = true ↔
      options.PreflightCovers intl request := by
  have format := fallback_format created format
  have admits : (options.shouldFallback.getD fun error _ => defaultShouldFallback error) error
      request = true := by
    cases chosen : options.shouldFallback with
    | none => simp [defaultShouldFallback, operational, retriable]
    | some shouldFallback => exact policy shouldFallback chosen
  rw [startFallback_isOpened timestamps known admits]
  have checked := accepted
  simp only [supportsTtsSelection, supportsTtsFailoverSelection, Bool.and_eq_true] at checked
  cases declared : options.fallbackRequestVariants with
  | none =>
    rw [prepareFallbackRequest_identity declared format]
    simp only [PreflightCovers, declared]
    refine and_congr_right fun _ => ⟨.inr, ?_⟩
    rintro (fills | supported)
    · rw [failoverSelectionIssues_fillsNothing fills]
      simp only [declared, resolveFallbackSelectionEntries, List.all_cons, Bool.and_eq_true]
        at checked
      exact of_decide_eq_true checked.2.1
    · exact supported
  | some variants =>
    rw [prepareFallbackRequest_variants declared format accepted opened]
    simp only [PreflightCovers, declared]
    refine and_congr_right fun _ => applicableVariants_primaryLanguage ?_
    simp only [declared, resolveFallbackSelectionEntries, decide_eq_true_eq] at checked
    exact fun empty => checked.1.2 (by
      rw [List.map_eq_nil_iff]
      exact empty)

/-! ### Two providers with their own models -/

def pcmFormat : AudioFormat := ⟨.pcmS16le, ⟨16000, by decide⟩, .mono⟩

/-- A provider that knows one model and has no hooks. -/
def catalogTts (model : Text) : TextToSpeechProvider where
  name := utf16 "tts:" ++ model
  capabilities := ⟨some [model], none, none, false, none, some [pcmFormat], false⟩
  configuredModel := some model
  configuredVoice := none
  configuredLanguage := none
  languageWasExplicitlyConfigured := none
  allowUnknownModel := false
  supportsTtsSelection := none
  requiresTtsLanguageForModel := none
  requiresTtsLanguageForSelection := none
  describeTtsLanguageRequirement := none
  requiresTtsVoiceForModel := none
  supportsTtsLanguage := none
  supportsLanguage := none
  supportsTtsSpeed := none
  supportsTtsVoiceOverride := none
  supportsVoice := none
  supportsConfiguredModelSelection := none

def plainIntl : TtsIntl := ⟨some, id, fun _ => []⟩

def twoCatalogs (fallbackModel : Text) : TtsFailoverProviderOptions where
  primary := catalogTts (utf16 "bulbul")
  fallback := catalogTts fallbackModel
  fallbackRequestVariants := none
  languageMatch := .exact
  shouldFallback := none
  name := utf16 "tts-failover"

/-- A request that leaves every choice to the provider. -/
def bareRequest : TtsSynthesisRequest := ⟨none, none, none, none, pcmFormat, none, none⟩

def upstreamFailed : TtsPrimaryError := ⟨utf16 "provider.upstream_failed", true, false⟩

/-- The bare selection is accepted for the fallback's own model, and then sent with the
primary's. -/
theorem identityMapping_sendsPrimaryModel :
    (twoCatalogs (utf16 "flash")).creates plainIntl = true ∧
      ((twoCatalogs (utf16 "flash")).outputFormats.getD []).any
        (sameAudioFormat · bareRequest.format) = true ∧
      bareRequest.timestamps = none ∧ upstreamFailed.retriable = true ∧
      upstreamFailed.code ∉ nonOperationalProviderErrors ∧ upstreamFailed.outcomeUnknown = false ∧
      (twoCatalogs (utf16 "flash")).supportsTtsSelection plainIntl
        (selectionFromRequest bareRequest) bareRequest.selectionContext = true ∧
      (twoCatalogs (utf16 "flash")).opensPrimary plainIntl bareRequest = true ∧
      ((twoCatalogs (utf16 "flash")).startFallback plainIntl upstreamFailed bareRequest).isOpened =
        false := by
  refine ⟨?_, ?_, rfl, rfl, ?_, rfl, ?_, ?_, ?_⟩ <;> decide +kernel

/-- A fallback with the primary's model is opened. -/
theorem startFallback_opens_sharedModel :
    ((twoCatalogs (utf16 "bulbul")).startFallback plainIntl upstreamFailed bareRequest).isOpened =
      true := by
  refine (startFallback_opens ?_ ?_ ?_ ?_ ?_ ?_ ?_ ?_ ?_).mpr ?_
  case refine_7 => intro shouldFallback chosen; cases chosen
  case refine_10 =>
    exact ⟨by decide +kernel, .inl ⟨.inr (.inr (by decide +kernel)), .inr ⟨rfl, rfl⟩⟩⟩
  all_goals decide +kernel

end TtsFailoverProviderOptions

end Tvic
