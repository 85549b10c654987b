import Tvic.Lib.Text
import Tvic.Media.AudioNormalizer

/-!
# What a text-to-speech provider supports

`evaluateTtsSelectionCompatibility` of `packages/core/src/providers/tts-selection-compatibility.ts`
and what it reads of a provider. The hooks of a provider are functions; a hook that throws gives
`none`. What JavaScript itself says of language tags and numbers is `TtsIntl`.
-/
namespace Tvic

open Lib

inductive JsNumber where
  | finite (value : Rat)
  | infinity (negative : Bool)
  | nan
  deriving DecidableEq

namespace JsNumber

def isFinite : JsNumber → Bool
  | finite _ => true
  | _ => false

/-- `left === right`, in which NaN differs from itself. -/
def same : JsNumber → JsNumber → Bool
  | nan, _ => false
  | left, right => left = right

/-- `left <= right` of finite numbers. -/
def le : JsNumber → JsNumber → Bool
  | finite left, finite right => left ≤ right
  | _, _ => false

def positive : JsNumber → Bool
  | finite value => 0 < value
  | infinity negative => !negative
  | nan => false

theorem same_self {number : JsNumber} (proper : number ≠ nan) : number.same number = true := by
  cases number with
  | finite value => exact decide_eq_true rfl
  | infinity negative => exact decide_eq_true rfl
  | nan => exact absurd rfl proper

end JsNumber

structure TtsIntl where
  /-- `Intl.getCanonicalLocales(value)[0]`, or nothing where it throws. -/
  canonicalizeLanguageTag : Text → Option Text
  toLowerCase : Text → Text
  numberText : JsNumber → Text

structure TtsProviderSelection where
  model : Option Text
  voice : Option Text
  language : Option Text
  speed : Option JsNumber
  deriving DecidableEq

/-- What the hooks are told of where the language comes from. -/
structure TtsProviderSelectionContext where
  languageWasExplicitlySelected : Option Bool
  languageWasCallerSelected : Bool
  deriving DecidableEq

structure TtsLanguageRequirementDescription where
  provider : Option Text
  model : Option Text

structure ProviderTtsSpeedRange where
  model : Option Text
  min : JsNumber
  max : JsNumber

structure TtsProviderCapabilities where
  models : Option (List Text)
  voices : Option (List Text)
  languages : Option (List Text)
  /-- `voiceSelection === "account_snapshot"`. -/
  accountVoices : Bool
  ttsSpeedRanges : Option (List ProviderTtsSpeedRange)
  /-- `audio?.output`. -/
  outputFormats : Option (List AudioFormat)
  timestamps : Bool

/-- Optional fields are hooks the provider may leave out. -/
structure TextToSpeechProvider where
  name : Text
  capabilities : TtsProviderCapabilities
  configuredModel : Option Text
  configuredVoice : Option Text
  configuredLanguage : Option Text
  languageWasExplicitlyConfigured : Option Bool
  allowUnknownModel : Bool
  supportsTtsSelection :
    Option (TtsProviderSelection → TtsProviderSelectionContext → Option Bool)
  requiresTtsLanguageForModel : Option (Option Text → Option Bool)
  requiresTtsLanguageForSelection :
    Option (TtsProviderSelection → TtsProviderSelectionContext → Option Bool)
  /-- The outer `Option` of the result is a hook that throws. -/
  describeTtsLanguageRequirement :
    Option (TtsProviderSelection → TtsProviderSelectionContext →
      Option (Option TtsLanguageRequirementDescription))
  requiresTtsVoiceForModel : Option (Option Text → Option Bool)
  supportsTtsLanguage :
    Option (Text → Option Text → Option Text → TtsProviderSelectionContext → Option Bool)
  supportsLanguage : Option (Text → Option Text → Option Bool)
  supportsTtsSpeed :
    Option (JsNumber → Option Text → Option Text → Option TtsProviderSelectionContext →
      Option Bool)
  supportsTtsVoiceOverride :
    Option (Text → Option Text → Option Text → TtsProviderSelectionContext → Option Bool)
  supportsVoice : Option (Text → Option Text → Option Bool)
  supportsConfiguredModelSelection : Option (Text → Option Text → Bool)

/-! ## Language tags and speeds -/

/-- A tag followed by what is left of it as `-` after `-` is cut off at its end. -/
def parentTags (tag : Text) : List Text :=
  let parts := tag.splitOn 45
  (List.range parts.length).map fun dropped =>
    List.intercalate [45] (parts.take (parts.length - dropped))

/-- `split("-", 1)[0]`. -/
def primarySubtag (tag : Text) : Text := tag.takeWhile (· ≠ 45)

def languageTagCandidates (intl : TtsIntl) (language : Text) : List Text :=
  let canonical := intl.canonicalizeLanguageTag language
  let rawPrimary := intl.toLowerCase (primarySubtag language)
  let rawAlias :=
    canonical.any fun tag => rawPrimary ≠ intl.toLowerCase (primarySubtag tag)
  ((if rawAlias then parentTags language else []) ++
    parentTags (canonical.getD language)).eraseDups

section Provider

variable (intl : TtsIntl) (provider : TextToSpeechProvider)

def declaredTtsSpeedRange (model : Option Text) : Option ProviderTtsSpeedRange :=
  (provider.capabilities.ttsSpeedRanges.getD []).find? (·.model = model)

def isTtsSpeedInDeclaredRange (speed : JsNumber) (model : Option Text) : Bool :=
  match declaredTtsSpeedRange provider model with
  | some range =>
    speed.isFinite && range.min.isFinite && range.max.isFinite && range.min.le range.max &&
      range.min.le speed && speed.le range.max
  | none => false

def safelySupportsTtsSpeed (speed : JsNumber) (model voice : Option Text) : Bool :=
  match provider.supportsTtsSpeed with
  | some hook => hook speed model voice none = some true
  | none => false

/-- The `ttsSpeed` part of `evaluateProviderCompatibility`. -/
def supportsRequestedTtsSpeed (speed : JsNumber) (model voice : Option Text) : Bool :=
  if (declaredTtsSpeedRange provider model).isSome then
    isTtsSpeedInDeclaredRange provider speed model
  else safelySupportsTtsSpeed provider speed model voice

def supportsLanguage (language : Text) (model voice : Option Text)
    (context : TtsProviderSelectionContext) : Bool :=
  match provider.supportsTtsLanguage, provider.supportsLanguage with
  | some hook, _ => hook language model voice context = some true
  | none, some hook => hook language model = some true
  | none, none =>
    match provider.capabilities.languages with
    | some (first :: rest) => language ∈ first :: rest
    | _ => true

def supportsVoice (voice : Text) (model language : Option Text) (override : Bool)
    (context : TtsProviderSelectionContext) : Bool :=
  let fromCatalog :=
    match provider.capabilities.voices with
    | some (first :: rest) =>
      voice ∈ first :: rest || provider.configuredVoice = some voice
    | _ => true
  match provider.supportsTtsVoiceOverride, provider.supportsVoice with
  | some overrideHook, some voiceHook =>
    if override then overrideHook voice model language context = some true
    else voiceHook voice model = some true
  | some overrideHook, none => overrideHook voice model language context = some true
  | none, some voiceHook => voiceHook voice model = some true
  | none, none => fromCatalog

end Provider

/-! ## The compatibility check -/

inductive TtsSelectionRequirement where
  | model
  | voice
  | language
  | speed
  | selection
  deriving DecidableEq, Repr

structure TtsSelectionCompatibilityIssue where
  requirement : TtsSelectionRequirement
  message : Text
  deriving DecidableEq

/-- Options that are left out are `none`, or `false` where the source only asks for `true`. -/
structure TtsSelectionCompatibilityOptions where
  checkModel : Option Bool := none
  checkVoice : Option Bool := none
  checkLanguage : Option Bool := none
  checkSpeed : Option Bool := none
  checkRequiredFields : Bool := false
  checkProviderSelection : Bool := true
  selectionHookOverridesCatalog : Bool := false
  voiceOverride : Bool := false
  requireModelDeclaration : Bool := false
  requireLanguageDeclaration : Bool := false
  requireSpeedDeclaration : Bool := false
  languageForValidation : Option Text := none
  languageCompatibilityCandidates : Option (List Text) := none
  languageIsExplicit : Option Bool := none
  languageWasExplicitlySelected : Option Bool := none
  languageWasCallerSelected : Option Bool := none

def orDefault (value : Option Text) : Text := value.getD (utf16 "default")

section Evaluate

variable (intl : TtsIntl) (provider : TextToSpeechProvider) (selection : TtsProviderSelection)
  (options : TtsSelectionCompatibilityOptions)

def selectedModel : Option Text := selection.model <|> provider.configuredModel

def selectedVoice : Option Text := selection.voice <|> provider.configuredVoice

def selectedLanguage : Option Text :=
  options.languageForValidation <|> selection.language <|> provider.configuredLanguage

def hookOverridesCatalog : Bool :=
  options.selectionHookOverridesCatalog && provider.supportsTtsSelection.isSome

def selectionContext : TtsProviderSelectionContext where
  languageWasExplicitlySelected :=
    some (options.languageWasExplicitlySelected.getD selection.language.isSome)
  languageWasCallerSelected := options.languageWasCallerSelected.getD selection.language.isSome

def modelIssues : List TtsSelectionCompatibilityIssue :=
  match selectedModel provider selection with
  | none => []
  | some model =>
    if hookOverridesCatalog provider options ||
        !(options.checkModel.getD selection.model.isSome) then []
    else
      let models := provider.capabilities.models.getD []
      if models ≠ [] ∧ model ∉ models ∧ provider.configuredModel ≠ some model ∧
          ¬ provider.allowUnknownModel then
        [⟨.model, utf16 "Provider " ++ provider.name ++ utf16 " does not support model " ++ model⟩]
      else if models = [] ∧ options.requireModelDeclaration ∧
          provider.supportsTtsSelection.isNone then
        [⟨.model, utf16 "Provider " ++ provider.name ++
          utf16 " does not declare support for model " ++ model⟩]
      else []

/-- `requiresLanguage`, `requiresVoice` and whether a hook threw. The voice hook is only asked where
no voice is known, after the language hook. -/
def requiredFields : Bool × Bool × Bool :=
  let model := selectedModel provider selection
  let requiresLanguage :=
    match provider.requiresTtsLanguageForSelection, provider.requiresTtsLanguageForModel with
    | some hook, _ => hook selection (selectionContext selection options)
    | none, some hook => hook model
    | none, none => some false
  match requiresLanguage with
  | none => (false, false, true)
  | some language =>
    match selectedVoice provider selection, provider.requiresTtsVoiceForModel with
    | none, some hook =>
      match hook model with
      | some voice => (language, voice, false)
      | none => (language, false, true)
    | _, _ => (language, false, false)

/-- The description of a language requirement, asked only where there is one, and whether its hook
threw. -/
def describedRequirement (requiresLanguage : Bool) :
    Option TtsLanguageRequirementDescription × Bool :=
  if requiresLanguage then
    match provider.describeTtsLanguageRequirement with
    | some hook =>
      match hook selection (selectionContext selection options) with
      | some description => (description, false)
      | none => (none, true)
    | none => (none, false)
  else (none, false)

def requiredFieldIssues : List TtsSelectionCompatibilityIssue :=
  let model := selectedModel provider selection
  let required := requiredFields provider selection options
  let described := describedRequirement provider selection options required.1
  let languageIsExplicit :=
    options.languageIsExplicit.getD
      (selection.language.isSome || provider.languageWasExplicitlyConfigured ≠ some false)
  let requirementProvider := (described.1.bind (·.provider)).getD provider.name
  let requirementModel := orDefault (described.1.bind (·.model) <|> model)
  if options.checkRequiredFields then
    (if required.2.2 then
      [⟨.selection, utf16 "Provider " ++ provider.name ++
        utf16 " selection requirement hook failed"⟩] else []) ++
    (if described.2 then
      [⟨.selection, utf16 "Provider " ++ provider.name ++
        utf16 " language requirement description hook failed"⟩] else []) ++
    (if required.1 ∧ selectedLanguage provider selection options = none then
      [⟨.language, utf16 "Provider " ++ requirementProvider ++
        utf16 " requires a TTS language for model " ++ requirementModel⟩]
    else if required.1 ∧ ¬ languageIsExplicit then
      [⟨.language, utf16 "Provider " ++ requirementProvider ++
        utf16 " requires an explicitly selected TTS language for model " ++ requirementModel⟩]
    else []) ++
    (if required.2.1 then
      [⟨.voice, utf16 "Provider " ++ provider.name ++ utf16 " requires a TTS voice for model " ++
        orDefault model⟩] else [])
  else []

def voiceIssues : List TtsSelectionCompatibilityIssue :=
  match selectedVoice provider selection with
  | none => []
  | some voice =>
    if hookOverridesCatalog provider options ||
        !(options.checkVoice.getD selection.voice.isSome) then []
    else
      let hasVoiceSupport :=
        provider.supportsVoice.isSome || provider.supportsTtsVoiceOverride.isSome ||
          provider.supportsTtsSelection.isSome || provider.capabilities.voices.getD [] ≠ []
      if hasVoiceSupport &&
          !supportsVoice provider voice (selectedModel provider selection)
            (selectedLanguage provider selection options) options.voiceOverride
            (selectionContext selection options) then
        [⟨.voice, utf16 "Provider " ++ provider.name ++ utf16 " does not support voice " ++ voice⟩]
      else []

def languageIssues : List TtsSelectionCompatibilityIssue :=
  let model := selectedModel provider selection
  let voice := selectedVoice provider selection
  if hookOverridesCatalog provider options then []
  else
    match selectedLanguage provider selection options with
    | none =>
      if options.requireLanguageDeclaration then
        [⟨.language, utf16 "Provider " ++ provider.name ++
          utf16 " requires a TTS language for model " ++ orDefault model⟩]
      else []
    | some language =>
      if options.checkLanguage.getD selection.language.isSome then
        let languages := provider.capabilities.languages.getD []
        let hasLanguageSupport :=
          provider.supportsTtsLanguage.isSome || provider.supportsLanguage.isSome ||
            provider.supportsTtsSelection.isSome || languages ≠ []
        let candidates :=
          options.languageCompatibilityCandidates.getD (languageTagCandidates intl language)
        if ¬ hasLanguageSupport ∧ options.requireLanguageDeclaration then
          [⟨.language, utf16 "Provider " ++ provider.name ++
            utf16 " does not declare TTS language support"⟩]
        else if hasLanguageSupport ∧
            ¬ supportsLanguage provider language model voice
              (selectionContext selection options) ∧
            ¬ (provider.supportsTtsLanguage.isNone ∧ provider.supportsLanguage.isNone ∧
              candidates.any (languages.contains ·)) then
          [⟨.language, utf16 "Provider " ++ provider.name ++
            utf16 " does not support TTS language " ++ language ++ utf16 " for model " ++
            orDefault model ++ utf16 " and voice " ++ orDefault voice⟩]
        else []
      else []

def speedIssues : List TtsSelectionCompatibilityIssue :=
  let model := selectedModel provider selection
  let voice := selectedVoice provider selection
  match selection.speed with
  | none => []
  | some speed =>
    if hookOverridesCatalog provider options || !(options.checkSpeed.getD true) then []
    else if ¬ (speed.isFinite ∧ speed.positive) then
      [⟨.speed, utf16 "TTS speed must be a positive finite number"⟩]
    else
      match provider.supportsTtsSpeed with
      | some hook =>
        if hook speed model voice (some (selectionContext selection options)) = some true then []
        else
          [⟨.speed, utf16 "Provider " ++ provider.name ++ utf16 " does not support TTS speed " ++
            intl.numberText speed ++ utf16 " for model " ++ orDefault model ++
            utf16 " and voice " ++ orDefault voice⟩]
      | none =>
        if (declaredTtsSpeedRange provider model).isSome then
          if isTtsSpeedInDeclaredRange provider speed model then []
          else
            [⟨.speed, utf16 "Provider " ++ provider.name ++
              utf16 " does not support TTS speed " ++ intl.numberText speed ++
              utf16 " for model " ++ orDefault model⟩]
        else if options.requireSpeedDeclaration ∧ provider.supportsTtsSelection.isNone then
          [⟨.speed, utf16 "Provider " ++ provider.name ++
            utf16 " does not declare support for request-level TTS speed"⟩]
        else []

def selectionHookIssues : List TtsSelectionCompatibilityIssue :=
  match provider.supportsTtsSelection with
  | none => []
  | some hook =>
    let resolved : TtsProviderSelection :=
      ⟨selectedModel provider selection, selectedVoice provider selection,
        selectedLanguage provider selection options, selection.speed⟩
    if hook resolved (selectionContext selection options) = some true then []
    else [⟨.selection, utf16 "Provider does not support the selected TTS settings"⟩]

def evaluateTtsSelectionCompatibility : List TtsSelectionCompatibilityIssue :=
  let issues :=
    modelIssues provider selection options ++ requiredFieldIssues provider selection options ++
      voiceIssues provider selection options ++ languageIssues intl provider selection options ++
      speedIssues intl provider selection options
  if issues = [] ∧ options.checkProviderSelection then
    selectionHookIssues provider selection options
  else issues

end Evaluate

end Tvic
