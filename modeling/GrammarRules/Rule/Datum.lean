import GrammarRules.Output.Datum
import GrammarRules.Rule.Basic

/-!
# Rules as data

How rules and their parts are laid out for the output formats: the names of the fields and of the
values with a fixed list, and which fields are left out when there is nothing to say.
-/

namespace GrammarRules

/-! ## Names -/

/-- The name of the constraint. -/
def SpaceBefore.name : SpaceBefore → String
  | unspecified => "unspecified"
  | required => "required"
  | forbidden => "forbidden"

/-- The name of the scope. -/
def ExceptionScope.name : ExceptionScope → String
  | current => "current"
  | next => "next"
  | previous => "previous"

/-- The name of the conversion. -/
def CaseConversion.name : CaseConversion → String
  | keep => "none"
  | startLower => "start_lower"
  | startUpper => "start_upper"
  | allLower => "all_lower"
  | allUpper => "all_upper"

/-- The name of the choice. -/
def SkippedTokens.name : SkippedTokens → String
  | omitted => "none"
  | following => "following"
  | all => "all"

/-! ## Parts of a rule -/

def PosTag.datum (pos : PosTag) : Datum :=
  .record [("tag", .text pos.tag), ("regexp", .bool pos.regexp), ("negated", .bool pos.negated)]

def TokenException.datum (exception : TokenException) : Datum :=
  .record
    (Datum.optional "text" exception.text .text ++
      [("regexp", .bool exception.regexp), ("inflected", .bool exception.inflected),
        ("negated", .bool exception.negated)] ++
      Datum.optional "pos" exception.pos PosTag.datum ++
      [("scope", .name exception.scope.name), ("space_before", .name exception.spaceBefore.name)])

def Match.datum (m : Match) : Datum :=
  .record
    (Datum.optional "token_ref" m.tokenRef .nat ++
      Datum.optional "pos_tag" m.posTag .text ++
      Datum.optional "pos_replace" m.posReplace .text ++
      [("pos_regexp", .bool m.posRegexp)] ++
      Datum.optional "regex_match" m.regexMatch .text ++
      Datum.optional "regex_replace" m.regexReplace .text ++
      [("case_conversion", .name m.caseConversion.name),
        ("include_skipped", .name m.includeSkipped.name), ("set_pos", .bool m.setPos),
        ("message_only", .bool m.messageOnly)])

def Unification.datum (unification : Unification) : Datum :=
  .record
    [("features", .map (unification.features.entries.map fun (feature, types) =>
        (feature, .list (types.map .text)))),
      ("last", .bool unification.last)]

mutual

def Element.datum : Element → Datum
  | ⟨text, caseSensitive, regexp, negated, inflected, pos, exceptions, spaceBefore, skip, phrase,
      reference, andGroup, unification⟩ =>
    .record
      ([("text", .text text), ("case_sensitive", .bool caseSensitive), ("regexp", .bool regexp),
          ("negated", .bool negated), ("inflected", .bool inflected)] ++
        Datum.optional "pos" pos PosTag.datum ++
        Datum.nonempty "exceptions" exceptions TokenException.datum ++
        [("space_before", .name spaceBefore.name), ("skip", .int skip)] ++
        Datum.optional "phrase" phrase .text ++
        Datum.optional "reference" reference Match.datum ++
        Datum.nonempty "and_group" (elementData andGroup) id ++
        Datum.optional "unification" unification Unification.datum)

/-- The data of a list of elements. -/
def elementData : List Element → List Datum
  | [] => []
  | element :: rest => element.datum :: elementData rest

end

/-! ## Rules -/

def MarkerRange.datum (marker : MarkerRange) : Datum :=
  .record [("from", .int marker.fromStart), ("to", .int marker.fromEnd)]

def IncorrectExample.datum (sentence : IncorrectExample) : Datum :=
  .record (("text", .text sentence.text) ::
    Datum.nonempty "corrections" sentence.corrections .text)

def Rule.datum (rule : Rule) : Datum :=
  .record
    ([("id", .text rule.id)] ++
      Datum.optional "sub_id" rule.subId .nat ++
      Datum.optional "variant" rule.variant .nat ++
      Datum.optional "group_id" rule.groupId .text ++
      Datum.optional "name" rule.name .text ++
      Datum.optional "category" rule.category .text ++
      [("default_off", .bool rule.defaultOff), ("elements", .list (elementData rule.elements)),
        ("marker", rule.marker.datum)] ++
      Datum.nonempty "matches" rule.placeholders Match.datum ++
      [("message", .text rule.message)] ++
      Datum.optional "short_message" rule.shortMessage .text ++
      Datum.nonempty "correct_examples" rule.correctExamples .text ++
      Datum.nonempty "incorrect_examples" rule.incorrectExamples IncorrectExample.datum)

def CompiledRules.datum (compiled : CompiledRules) : Datum :=
  let features := compiled.unification.entries.map fun (feature, types) =>
    (feature, Datum.map (types.entries.map fun (type, elements) =>
      (type, .list (elementData elements))))
  .record
    (Datum.optional "language" compiled.language .text ++
      [("rules", .list (compiled.rules.map Rule.datum))] ++
      if features.isEmpty then [] else [("unification", .map features)])

end GrammarRules
