import Tvic.Providers.TtsSelection

/-!
# The fallback's selection

`packages/providers/src/tts-failover-selection.ts` and the mapping of `startFallback` in
`tts-failover.ts`, for a failover provider without `mapFallbackRequest`: without variants the request
is passed on as it is, with variants they map it. `supportsTtsSelection` checks both providers before
a call, `startFallback` maps and checks the request once the primary has failed. Requests here carry
no text controls and no capability snapshots, and nothing is aborted.
-/
namespace Tvic

open Lib

/-- `Omit<TtsProviderSelection, "speed">`. -/
structure TtsFallbackSettings where
  model : Option Text
  voice : Option Text
  language : Option Text
  deriving DecidableEq

def TtsFallbackSettings.selection (settings : TtsFallbackSettings) : TtsProviderSelection :=
  ⟨settings.model, settings.voice, settings.language, none⟩

structure TtsFailoverRequestVariant where
  condition : Option TtsProviderSelection
  fallback : TtsFallbackSettings
  deriving DecidableEq

inductive TtsLanguageMatch where
  | exact
  | baseLanguage
  deriving DecidableEq, Repr

inductive TtsSelectionField where
  | model
  | voice
  | language
  | speed
  deriving DecidableEq, Repr

def TtsSelectionField.text : TtsSelectionField → Text
  | .model => utf16 "model"
  | .voice => utf16 "voice"
  | .language => utf16 "language"
  | .speed => utf16 "speed"

def TtsProviderSelection.states (selection : TtsProviderSelection) : TtsSelectionField → Bool
  | .model => selection.model.isSome
  | .voice => selection.voice.isSome
  | .language => selection.language.isSome
  | .speed => selection.speed.isSome

/-- `Object.keys(selection)` of a snapshot. -/
def TtsProviderSelection.fields (selection : TtsProviderSelection) : List TtsSelectionField :=
  [.model, .voice, .language, .speed].filter selection.states

/-- What `startFallback` reads of the primary's normalized error. -/
structure TtsPrimaryError where
  code : Text
  retriable : Bool
  /-- `metadata?.outcomeUnknown === true`. -/
  outcomeUnknown : Bool
  deriving DecidableEq

/-- A validation error, and the provider it names. -/
structure TtsFallbackValidationFailure where
  code : Text
  message : Text
  provider : Text
  deriving DecidableEq

structure TtsSynthesisRequest where
  model : Option Text
  voice : Option Text
  language : Option Text
  speed : Option JsNumber
  format : AudioFormat
  timestamps : Option Bool
  selectionContext : Option TtsProviderSelectionContext

def selectionFromRequest (request : TtsSynthesisRequest) : TtsProviderSelection :=
  ⟨request.model, request.voice, request.language, request.speed⟩

/-- Options of `createTtsFailoverProvider` without `mapFallbackRequest`. -/
structure TtsFailoverProviderOptions where
  primary : TextToSpeechProvider
  fallback : TextToSpeechProvider
  fallbackRequestVariants : Option (List TtsFailoverRequestVariant)
  languageMatch : TtsLanguageMatch
  shouldFallback : Option (TtsPrimaryError → TtsSynthesisRequest → Bool)
  name : Text

def providerInvalidRequest : Text := utf16 "provider.invalid_request"

def providerModelUnsupported : Text := utf16 "provider.model_unsupported"

def providerVoiceUnsupported : Text := utf16 "provider.voice_unsupported"

def ttsLanguageUnsupported : Text := utf16 "tts.language_unsupported"

def nonOperationalProviderErrors : List Text :=
  [utf16 "provider.auth_failed", providerInvalidRequest, utf16 "provider.input_rejected",
    providerModelUnsupported, providerVoiceUnsupported, utf16 "provider.session_expired",
    utf16 "provider.protocol_invalid", utf16 "provider.identity_mismatch",
    utf16 "provider.sequence_invalid", utf16 "provider.stream_buffer_overflow"]

def defaultShouldFallback (error : TtsPrimaryError) : Bool :=
  decide (error.code ∉ nonOperationalProviderErrors) && error.retriable

def safelyRequiresTtsLanguageForModel (provider : TextToSpeechProvider) (model : Option Text) :
    Bool :=
  match provider.requiresTtsLanguageForModel with
  | some hook => (hook model).getD true
  | none => false

def effectiveProviderSelection (provider : TextToSpeechProvider)
    (selection : TtsProviderSelection) : TtsProviderSelection where
  model := selection.model <|> provider.configuredModel
  voice := selection.voice <|> provider.configuredVoice
  language := selection.language <|> provider.configuredLanguage
  speed := selection.speed

def emptySelection : TtsProviderSelection := ⟨none, none, none, none⟩

section Languages

variable (intl : TtsIntl) (languageMatch : TtsLanguageMatch)

/-- `od` as a primary subtag is an alias of `or`. -/
def odiaAlias (language : Text) : Text :=
  match language with
  | 111 :: 100 :: [] => utf16 "or"
  | 111 :: 100 :: 45 :: rest => utf16 "or-" ++ rest
  | other => other

def normalizeTtsLanguageAlias (language : Text) : Text :=
  let aliased := odiaAlias (intl.toLowerCase language)
  (intl.canonicalizeLanguageTag aliased).getD aliased

def ttsLanguageBase (language : Text) : Text :=
  primarySubtag (normalizeTtsLanguageAlias intl language)

def sameTtsLanguage (left right : Text) : Bool :=
  match languageMatch with
  | .baseLanguage => ttsLanguageBase intl left = ttsLanguageBase intl right
  | .exact => normalizeTtsLanguageAlias intl left = normalizeTtsLanguageAlias intl right

theorem sameTtsLanguage_self (language : Text) :
    sameTtsLanguage intl languageMatch language language = true := by
  cases languageMatch <;> simp [sameTtsLanguage]

/-- `left === right` where both may be missing. -/
def sameSpeed : Option JsNumber → Option JsNumber → Bool
  | some left, some right => left.same right
  | none, none => true
  | _, _ => false

def selectionValueMatches (field : TtsSelectionField) (actual expected : TtsProviderSelection) :
    Bool :=
  match field with
  | .model => actual.model = expected.model
  | .voice => actual.voice = expected.voice
  | .speed => sameSpeed actual.speed expected.speed
  | .language =>
    match actual.language, expected.language with
    | some left, some right => sameTtsLanguage intl languageMatch left right
    | left, right => left = right

def matchesSelection (selection : TtsProviderSelection) (expected : Option TtsProviderSelection) :
    Bool :=
  match expected with
  | none => true
  | some expected =>
    expected.fields.all fun field =>
      selectionValueMatches intl languageMatch field selection expected

/-- A caller's language and the one a variant declares, if both are there, are the same. -/
def admitsCallerLanguage (languageWasCallerSelected : Bool) (language : Option Text)
    (variant : TtsFailoverRequestVariant) : Bool :=
  match language, variant.fallback.language with
  | some selected, some declared =>
    !languageWasCallerSelected || sameTtsLanguage intl languageMatch selected declared
  | _, _ => true

end Languages

/-! ## Resolving and checking selections before a call -/

structure ResolvedFallbackSelection where
  selection : TtsProviderSelection
  languageWasExplicitlySelected : Bool
  languageWasCallerSelected : Bool

section Resolve

variable (intl : TtsIntl) (languageMatch : TtsLanguageMatch)

def resolveVariant (selection : TtsProviderSelection) (fallback : TextToSpeechProvider)
    (languageWasCallerSelected languageWasExplicitlySelected : Bool)
    (variant : TtsFailoverRequestVariant) : ResolvedFallbackSelection :=
  let defaults := effectiveProviderSelection fallback emptySelection
  let explicitLanguage :=
    if languageWasExplicitlySelected then selection.language else none
  let mapped : TtsProviderSelection :=
    { model := variant.fallback.model <|> defaults.model
      voice := variant.fallback.voice <|> defaults.voice
      language := variant.fallback.language <|> explicitLanguage <|> defaults.language
      speed := selection.speed }
  let model := mapped.model <|> fallback.configuredModel
  let dropsImplicitLanguage : Bool :=
    fallback.languageWasExplicitlyConfigured == some false &&
      safelyRequiresTtsLanguageForModel fallback model && !languageWasExplicitlySelected &&
      variant.fallback.language.isNone
  { selection :=
      { mapped with language := if dropsImplicitLanguage then none else mapped.language }
    languageWasExplicitlySelected :=
      languageWasExplicitlySelected || variant.fallback.language.isSome
    languageWasCallerSelected }

def applicableVariants (variants : List TtsFailoverRequestVariant)
    (conditionSelection : TtsProviderSelection) (language : Option Text)
    (languageWasCallerSelected : Bool) : List TtsFailoverRequestVariant :=
  variants.filter fun variant =>
    matchesSelection intl languageMatch conditionSelection variant.condition &&
      admitsCallerLanguage intl languageMatch languageWasCallerSelected language variant

def resolveFallbackSelectionEntries (selection : TtsProviderSelection)
    (variants : Option (List TtsFailoverRequestVariant))
    (conditionSelection : TtsProviderSelection) (fallback : TextToSpeechProvider)
    (languageWasCallerSelected languageWasExplicitlySelected : Bool) :
    List ResolvedFallbackSelection :=
  match variants with
  | none =>
    [{ selection :=
        { selection with
          language := if languageWasExplicitlySelected then selection.language else none }
       languageWasExplicitlySelected, languageWasCallerSelected }]
  | some variants =>
    (applicableVariants intl languageMatch variants conditionSelection selection.language
      languageWasCallerSelected).map
      (resolveVariant selection fallback languageWasCallerSelected languageWasExplicitlySelected)

def evaluateFailoverSelection (provider : TextToSpeechProvider)
    (selection : TtsProviderSelection)
    (languageIsExplicit languageWasCallerSelected languageWasExplicitlySelected : Bool) :
    List TtsSelectionCompatibilityIssue :=
  let effectiveSelection := effectiveProviderSelection provider selection
  evaluateTtsSelectionCompatibility intl provider effectiveSelection
    { checkModel := some effectiveSelection.model.isSome
      checkVoice :=
        some (effectiveSelection.voice.isSome && !provider.capabilities.accountVoices)
      voiceOverride := selection.voice.isSome
      checkLanguage := some effectiveSelection.language.isSome
      languageCompatibilityCandidates :=
        effectiveSelection.language.map (languageTagCandidates intl)
      checkSpeed := some effectiveSelection.speed.isSome
      checkRequiredFields := true
      languageIsExplicit := some languageIsExplicit
      languageWasCallerSelected := some languageWasCallerSelected
      languageWasExplicitlySelected := some languageWasExplicitlySelected
      requireSpeedDeclaration := effectiveSelection.speed.isSome
      checkProviderSelection := true
      selectionHookOverridesCatalog := true }

/-- The issues a selection has with a provider whose own language counts as explicit unless it says
otherwise. -/
def failoverSelectionIssues (provider : TextToSpeechProvider) (selection : TtsProviderSelection)
    (languageWasCallerSelected languageWasExplicitlySelected : Bool) :
    List TtsSelectionCompatibilityIssue :=
  evaluateFailoverSelection intl provider selection
    (languageWasExplicitlySelected || provider.languageWasExplicitlyConfigured ≠ some false)
    languageWasCallerSelected languageWasExplicitlySelected

def supportsTtsProviderSelection (provider : TextToSpeechProvider)
    (resolved : ResolvedFallbackSelection) : Bool :=
  failoverSelectionIssues intl provider resolved.selection resolved.languageWasCallerSelected
    resolved.languageWasExplicitlySelected = []

def supportsTtsFailoverSelection (primary fallback : TextToSpeechProvider)
    (selection : TtsProviderSelection) (variants : Option (List TtsFailoverRequestVariant))
    (languageWasCallerSelected languageWasExplicitlySelected : Bool) : Bool :=
  let fallbackSelections :=
    resolveFallbackSelectionEntries intl languageMatch selection variants
      (effectiveProviderSelection primary selection) fallback languageWasCallerSelected
      languageWasExplicitlySelected
  supportsTtsProviderSelection intl primary
      ⟨selection, languageWasExplicitlySelected, languageWasCallerSelected⟩ &&
    decide (fallbackSelections ≠ []) &&
    fallbackSelections.all (supportsTtsProviderSelection intl fallback)

end Resolve

/-! ## Mapping and checking the request at dispatch -/

section Dispatch

variable (intl : TtsIntl) (languageMatch : TtsLanguageMatch)

def invalidRequest (provider message : Text) : TtsFallbackValidationFailure :=
  ⟨providerInvalidRequest, message, provider⟩

def joinFields (fields : List TtsSelectionField) : Text :=
  List.intercalate (utf16 ", ") (fields.map TtsSelectionField.text)

/-- The fields of a variant's fallback that a mapped request misses. -/
def mismatchedFields (actual : TtsProviderSelection) (variant : TtsFailoverRequestVariant) :
    List TtsSelectionField :=
  variant.fallback.selection.fields.filter fun field =>
    !selectionValueMatches intl languageMatch field actual variant.fallback.selection

/-- The first of the shortest lists, as a stable sort by length has it in front. -/
def shortest (lists : List (List TtsSelectionField)) : Option (List TtsSelectionField) :=
  lists.foldl (fun best list =>
    match best with
    | none => some list
    | some kept => if list.length < kept.length then some list else some kept) none

def variantMismatch (variants whenMatched eligible : List TtsFailoverRequestVariant)
    (actual : TtsProviderSelection) (provider : Text) : TtsFallbackValidationFailure :=
  let callerLanguageMismatch : Bool := whenMatched ≠ [] ∧ eligible = []
  let orElse := fun (text other : Text) => if text = [] then other else text
  let closest := (shortest (eligible.map (mismatchedFields intl languageMatch actual))).getD []
  let conditionFields :=
    (variants.flatMap fun variant =>
      (variant.condition.map TtsProviderSelection.fields).getD []).eraseDups
  let fields :=
    if callerLanguageMismatch then utf16 "language"
    else if eligible ≠ [] then orElse (joinFields closest) (utf16 "fallback settings")
    else orElse (joinFields conditionFields) (utf16 "when")
  let kind :=
    if callerLanguageMismatch || eligible ≠ [] then utf16 "fallback fields"
    else utf16 "variant conditions"
  invalidRequest provider
    (utf16 "TTS failover mapping must match a declared fallback request variant; mismatched " ++
      kind ++ utf16 ": " ++ fields)

def assertMappedRequestMatchesVariant (mapped : TtsSynthesisRequest)
    (variants : List TtsFailoverRequestVariant) (fallback : TextToSpeechProvider)
    (primarySelection : TtsProviderSelection)
    (mappedLanguageWasExplicit languageWasCallerSelected : Bool) :
    Except TtsFallbackValidationFailure (Option Text) :=
  let actual := effectiveProviderSelection fallback (selectionFromRequest mapped)
  let whenMatched :=
    variants.filter fun variant =>
      matchesSelection intl languageMatch primarySelection variant.condition
  let eligible :=
    whenMatched.filter
      (admitsCallerLanguage intl languageMatch languageWasCallerSelected primarySelection.language)
  let matching :=
    eligible.filter fun variant =>
      let effectiveFallback :=
        if ¬ mappedLanguageWasExplicit ∧ variant.fallback.language.isSome then
          { actual with language := variant.fallback.language }
        else actual
      matchesSelection intl languageMatch effectiveFallback (some variant.fallback.selection)
  if matching ≠ [] then
    .ok (if mappedLanguageWasExplicit then none
      else matching.findSome? fun variant => variant.fallback.language)
  else .error (variantMismatch intl languageMatch variants whenMatched eligible actual fallback.name)

def withProviderDefaults (request : TtsSynthesisRequest) (provider : TextToSpeechProvider) :
    TtsSynthesisRequest :=
  { request with
    model := request.model <|> provider.configuredModel
    voice := request.voice <|> provider.configuredVoice }

def languageWasCallerSelected (language : Option Text)
    (context : Option TtsProviderSelectionContext) : Bool :=
  (context.map (·.languageWasCallerSelected)).getD language.isSome

def languageWasExplicitlySelected (language : Option Text)
    (context : Option TtsProviderSelectionContext) : Bool :=
  (context.bind (·.languageWasExplicitlySelected)).getD (languageWasCallerSelected language context)

/-- The model and voice the candidates agree on. -/
def mapRequestWithFallbackVariants (request : TtsSynthesisRequest)
    (primary fallback : TextToSpeechProvider) (variants : List TtsFailoverRequestVariant)
    (name : Text) : Except TtsFallbackValidationFailure TtsSynthesisRequest :=
  let selection := selectionFromRequest request
  let candidates :=
    resolveFallbackSelectionEntries intl languageMatch selection (some variants)
      (effectiveProviderSelection primary selection) fallback
      (languageWasCallerSelected request.language request.selectionContext)
      (languageWasExplicitlySelected request.language request.selectionContext)
  let targets :=
    (candidates.map fun candidate => (candidate.selection.model, candidate.selection.voice)).dedup
  match targets with
  | [] =>
    .error (invalidRequest name
      (utf16 "TTS failover request matches no declared fallback request variant"))
  | [(model, voice)] => .ok { request with model := model, voice := voice }
  | _ =>
    .error (invalidRequest name
      (utf16 ("TTS failover request matches several fallback request variants with different " ++
        "fallback voices; supply mapFallbackRequest to choose one")))

def assertMappedRequest (original mapped : TtsSynthesisRequest) (fallbackProvider : Text) :
    Except TtsFallbackValidationFailure Unit :=
  if sameAudioFormat mapped.format original.format ∧ sameSpeed mapped.speed original.speed ∧
      mapped.timestamps = original.timestamps then .ok ()
  else
    .error (invalidRequest fallbackProvider
      (utf16 ("TTS failover request mapping may change only provider-specific fields such as " ++
        "model or voice")))

def assertCallerLanguageCompatible (callerLanguage mappedLanguage fallbackProvider : Text) :
    Except TtsFallbackValidationFailure Unit :=
  if sameTtsLanguage intl languageMatch callerLanguage mappedLanguage then .ok ()
  else
    .error (invalidRequest fallbackProvider
      (utf16 "TTS failover mapping for " ++ fallbackProvider ++
        utf16 " changes the caller-selected language from " ++ callerLanguage ++ utf16 " to " ++
        mappedLanguage))

def fallbackSelectionFailure (fallback : TextToSpeechProvider)
    (issue : TtsSelectionCompatibilityIssue) : TtsFallbackValidationFailure :=
  match issue.requirement with
  | .model => ⟨providerModelUnsupported, issue.message, fallback.name⟩
  | .voice => ⟨providerVoiceUnsupported, issue.message, fallback.name⟩
  | .language => ⟨ttsLanguageUnsupported, issue.message, fallback.name⟩
  | .speed | .selection => invalidRequest fallback.name issue.message

def assertFallbackRequestSupported (fallback : TextToSpeechProvider)
    (request : TtsSynthesisRequest) (languageWasCallerSelected languageWasExplicitlySelected : Bool) :
    Except TtsFallbackValidationFailure Unit :=
  if (fallback.capabilities.outputFormats.getD []).any (sameAudioFormat · request.format) then
    match failoverSelectionIssues intl fallback
        (effectiveProviderSelection fallback (selectionFromRequest request))
        languageWasCallerSelected languageWasExplicitlySelected with
    | [] => .ok ()
    | issue :: _ => .error (fallbackSelectionFailure fallback issue)
  else
    .error (invalidRequest fallback.name
      (utf16 "TTS failover fallback " ++ fallback.name ++
        utf16 " does not declare support for the requested output format"))

def ttsSpeedSupported (provider : TextToSpeechProvider) (request : TtsSynthesisRequest) : Bool :=
  match request.speed with
  | none => true
  | some speed =>
    supportsRequestedTtsSpeed provider speed (request.model <|> provider.configuredModel) none

end Dispatch

/-- How `startFallback` ends, up to the call of the fallback's `synthesize`. -/
inductive FallbackStart where
  /-- The primary's error is thrown as it is. -/
  | declined
  /-- It is thrown with what the fallback's validation said. -/
  | rejected (failure : TtsFallbackValidationFailure)
  | opened (fallbackRequest : TtsSynthesisRequest)

def FallbackStart.isOpened : FallbackStart → Bool
  | opened _ => true
  | _ => false

namespace TtsFailoverProviderOptions

variable (intl : TtsIntl) (options : TtsFailoverProviderOptions)

def supportsTtsSelection (selection : TtsProviderSelection)
    (context : Option TtsProviderSelectionContext) : Bool :=
  supportsTtsFailoverSelection intl options.languageMatch options.primary options.fallback selection
    options.fallbackRequestVariants (languageWasCallerSelected selection.language context)
    (languageWasExplicitlySelected selection.language context)

def mapFallbackRequest (request : TtsSynthesisRequest) :
    Except TtsFallbackValidationFailure TtsSynthesisRequest :=
  match options.fallbackRequestVariants with
  | some variants =>
    mapRequestWithFallbackVariants intl options.languageMatch request options.primary
      options.fallback variants options.name
  | none => .ok request

/-- `synthesize` gets to the primary: both providers support the speed, and there is a mapping. -/
def opensPrimary (request : TtsSynthesisRequest) : Bool :=
  ttsSpeedSupported options.primary (withProviderDefaults request options.primary) &&
    match options.mapFallbackRequest intl (withProviderDefaults request options.primary) with
    | .ok mapped => ttsSpeedSupported options.fallback mapped
    | .error _ => false

/-- The language a mapped request is sent with, and whether it counts as explicit. -/
def fallbackLanguage (original mapped variantLanguage : Option Text)
    (languageWasExplicitlySelected mapperIntroducedLanguage : Bool) : Option Text :=
  if variantLanguage.isSome then variantLanguage
  else if languageWasExplicitlySelected ∧ original.isSome ∧ mapped = none then original
  else if ¬ languageWasExplicitlySelected ∧ ¬ mapperIntroducedLanguage ∧ mapped = original then none
  else mapped

/-- The caller's language is only compared where the mapped request has one too. -/
def assertCallerLanguage (callerSelected : Bool) (original mapped : Option Text) :
    Except TtsFallbackValidationFailure Unit :=
  match callerSelected, original, mapped with
  | true, some callerLanguage, some mappedLanguage =>
    assertCallerLanguageCompatible intl options.languageMatch callerLanguage mappedLanguage
      options.fallback.name
  | _, _, _ => .ok ()

def variantLanguage (mapped : TtsSynthesisRequest) (primarySelection : TtsProviderSelection)
    (mapperIntroducedLanguage callerSelected : Bool) :
    Except TtsFallbackValidationFailure (Option Text) :=
  match options.fallbackRequestVariants with
  | none => .ok none
  | some variants =>
    assertMappedRequestMatchesVariant intl options.languageMatch mapped variants options.fallback
      primarySelection mapperIntroducedLanguage callerSelected

/-- What `startFallback` does between the policy and the observer. -/
def prepareFallbackRequest (request : TtsSynthesisRequest) :
    Except TtsFallbackValidationFailure TtsSynthesisRequest := do
  let original := withProviderDefaults request options.primary
  let primarySelection :=
    effectiveProviderSelection options.primary (selectionFromRequest original)
  let callerSelected := languageWasCallerSelected original.language original.selectionContext
  let explicitlySelected :=
    languageWasExplicitlySelected original.language original.selectionContext
  let mapped ← options.mapFallbackRequest intl original
  assertMappedRequest original mapped options.fallback.name
  let mapperIntroducedLanguage := mapped.language.isSome && mapped.language ≠ original.language
  options.assertCallerLanguage intl callerSelected original.language mapped.language
  let variantLanguage ←
    options.variantLanguage intl mapped primarySelection mapperIntroducedLanguage callerSelected
  let fallbackRequest :=
    { mapped with
      language := fallbackLanguage original.language mapped.language variantLanguage
        explicitlySelected mapperIntroducedLanguage }
  assertFallbackRequestSupported intl options.fallback fallbackRequest callerSelected
    (explicitlySelected || mapperIntroducedLanguage || variantLanguage.isSome)
  pure fallbackRequest

def startFallback (error : TtsPrimaryError) (request : TtsSynthesisRequest) : FallbackStart :=
  let admits :=
    (options.shouldFallback.getD fun error _ => defaultShouldFallback error) error request
  if request.timestamps = some true ∧ ¬ options.fallback.capabilities.timestamps then .declined
  else if error.outcomeUnknown ∨ ¬ admits then .declined
  else
    match options.prepareFallbackRequest intl request with
    | .ok fallbackRequest => .opened fallbackRequest
    | .error failure => .rejected failure

/-! ## Creating the provider -/

def compatibleOutputFormats : Bool :=
  match options.primary.capabilities.outputFormats, options.fallback.capabilities.outputFormats with
  | some primaryFormats, some fallbackFormats =>
    primaryFormats.all fun format => fallbackFormats.any (sameAudioFormat format)
  | _, _ => true

def compatibleLanguages : Bool :=
  match options.primary.configuredLanguage, options.fallback.configuredLanguage with
  | none, none => true
  | some primaryLanguage, some fallbackLanguage =>
    sameTtsLanguage intl .exact primaryLanguage fallbackLanguage ||
      (options.languageMatch = .baseLanguage &&
        sameTtsLanguage intl .baseLanguage primaryLanguage fallbackLanguage)
  | _, _ => false

/-- `assertFallbackConfiguredModelSelections`, as a test. -/
def configuredModelSelections : Bool :=
  (options.fallbackRequestVariants.getD []).all fun variant =>
    match variant.fallback.model <|> options.fallback.configuredModel,
      options.fallback.supportsConfiguredModelSelection with
    | some model, some hook => hook model (variant.fallback.voice <|> options.fallback.configuredVoice)
    | _, _ => true

def maxTtsFailoverRequestVariants : Nat := 16

/-- `createTtsFailoverProvider` accepts the options; neither provider lists dialogue voices. -/
def creates : Bool :=
  options.compatibleOutputFormats && options.compatibleLanguages intl &&
    options.configuredModelSelections &&
    (options.fallbackRequestVariants.all fun variants =>
      decide (variants ≠ []) && decide (variants.length ≤ maxTtsFailoverRequestVariants))

/-- `capabilities.audio.output` of the failover provider. -/
def outputFormats : Option (List AudioFormat) :=
  if options.fallback.capabilities.outputFormats.isSome then
    options.primary.capabilities.outputFormats
  else none

end TtsFailoverProviderOptions

end Tvic
