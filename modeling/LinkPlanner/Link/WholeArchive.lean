import LinkPlanner.Config.Feature
import LinkPlanner.Config.LinkOptions

/-! Whether static libraries are kept whole, when neither the library nor the link says so itself. The order in
which the rules are tried decides, and builds have come to depend on it. -/

namespace LinkPlanner

/-- Everything that the decision looks at. -/
structure WholeArchiveFacts where
  /-- The output is shared, or the options ask for a shared output. -/
  sharedOutput : Bool
  forceNoWholeArchiveRequested : Bool
  removeLegacyWholeArchive : Bool
  linkingMode : LinkingMode
  legacyWholeArchiveRequested : Bool
  legacyWholeArchive : Bool

/-- The rule that decides. They are listed in the order in which they are tried. -/
inductive WholeArchiveRule where
  | notShared
  | forceNoWholeArchive
  | legacyRemoved
  | notStaticLinking
  | legacyFeatureRequested
  | legacyOption
  | default
deriving DecidableEq, Repr, Inhabited

namespace WholeArchiveRule

def all : List WholeArchiveRule :=
  [notShared, forceNoWholeArchive, legacyRemoved, notStaticLinking, legacyFeatureRequested, legacyOption, default]

def label : WholeArchiveRule → String
  | notShared => "NotShared"
  | forceNoWholeArchive => "ForceNoWholeArchive"
  | legacyRemoved => "LegacyRemoved"
  | notStaticLinking => "NotStaticLinking"
  | legacyFeatureRequested => "LegacyFeatureRequested"
  | legacyOption => "LegacyOption"
  | default => "Default"

/-- Libraries are kept whole under this rule. -/
def keepsWhole : WholeArchiveRule → Bool
  | legacyFeatureRequested | legacyOption => true
  | _ => false

end WholeArchiveRule

namespace WholeArchiveFacts

def ofLink (type : LinkType) (linkopts : List String) (mode : LinkingMode) (options : LinkOptions)
    (features : Features) : WholeArchiveFacts where
  sharedOutput :=
    type.isDynamicLibrary || linkopts.contains LinkOptions.sharedFlag || options.hasSharedLinkOption
  forceNoWholeArchiveRequested := features.isRequested .forceNoWholeArchive
  removeLegacyWholeArchive := options.incompatibleRemoveLegacyWholeArchive
  linkingMode := mode
  legacyWholeArchiveRequested := features.isRequested .legacyWholeArchive
  legacyWholeArchive := options.legacyWholeArchive

/-- The first rule that applies. What an executable does not use nothing else will, so the first rule is that
only shared outputs keep libraries whole. -/
def rule (w : WholeArchiveFacts) : WholeArchiveRule :=
  if !w.sharedOutput then .notShared
  else if w.forceNoWholeArchiveRequested then .forceNoWholeArchive
  else if w.removeLegacyWholeArchive then .legacyRemoved
  else if w.linkingMode ≠ .static then .notStaticLinking
  else if w.legacyWholeArchiveRequested then .legacyFeatureRequested
  else if w.legacyWholeArchive then .legacyOption
  else .default

/-- Libraries are kept whole under the rule that applies if the output is shared, nothing forbids it, the linking is
static, and the old behaviour is asked for. -/
theorem keepsWhole_rule_iff (w : WholeArchiveFacts) :
    w.rule.keepsWhole = true ↔
      w.sharedOutput = true ∧ w.forceNoWholeArchiveRequested = false ∧ w.removeLegacyWholeArchive = false ∧
        w.linkingMode = .static ∧ (w.legacyWholeArchiveRequested = true ∨ w.legacyWholeArchive = true) := by
  unfold rule
  repeat' split
  all_goals simp_all [WholeArchiveRule.keepsWhole]

/-- A request of the link itself can turn the keeping on but never off. -/
def keepWhole (w : WholeArchiveFacts) (requested : Bool) : Bool := requested || w.rule.keepsWhole

end WholeArchiveFacts
end LinkPlanner
