/-
# Exposition

Metrics as text: families in the order of their names, each with a line of help, a line for its
kind, and a line for each sample in the order of the label values.  A family without samples is left
out.  Values are printed as doubles.
-/
import Turnstile.Metrics
import Turnstile.Text.Double

namespace Turnstile

/-! ## 1. Families -/

/-- Whether a value only grows. -/
inductive MetricKind where
  | counter
  | gauge
deriving DecidableEq, Repr

/-- The word for a kind. -/
def MetricKind.text : MetricKind → String
  | counter => "counter"
  | gauge => "gauge"

/-- A value, with the label that tells it from the others of its family. -/
structure Sample where
  label : Option (String × String)
  value : Int
deriving DecidableEq, Repr

/-- Samples under one name. -/
structure MetricFamily where
  name : String
  help : String
  kind : MetricKind
  samples : List Sample
deriving DecidableEq, Repr

namespace MetricFamily

/-- A label value: quotes, backslashes and line feeds are escaped. -/
def labelText (value : String) : String :=
  String.ofList (value.toList.flatMap fun c =>
    if c = '\\' then ['\\', '\\']
    else if c = '"' then ['\\', '"']
    else if c = '\n' then ['\\', 'n']
    else [c])

/-- One line for a sample. -/
def sampleText (name : String) (s : Sample) : String :=
  let label := match s.label with
    | some (key, value) => "\x7b" ++ key ++ "=\"" ++ labelText value ++ "\"\x7d"
    | none => ""
  name ++ label ++ " " ++ Text.Double.text s.value ++ "\n"

/-- The lines of a family. -/
def text (f : MetricFamily) : String :=
  s!"# HELP {f.name} {f.help}\n# TYPE {f.name} {f.kind.text}\n" ++
    String.join (f.samples.map (sampleText f.name))

/-- A family of one value without a label. -/
def single (name help : String) (kind : MetricKind) (value : Int) : MetricFamily :=
  ⟨name, help, kind, [⟨none, value⟩]⟩

/-- A family of counters under the values of one label, in the order of the values. -/
def labelled (name help label : String) (counts : List (String × UInt64)) : MetricFamily :=
  let sorted := counts.mergeSort fun a b => a.1 ≤ b.1
  ⟨name, help, .counter, sorted.map fun e => ⟨some (label, e.1), e.2.toNat⟩⟩

end MetricFamily

/-! ## 2. Metrics -/

namespace Metrics

/-- The version that metrics report. -/
def version : String := "0.1.0"

/-- The families with samples, in the order of their names. -/
def families (m : Metrics) : List MetricFamily :=
  let all : List MetricFamily := [
    .labelled "rulegate_build_info" "Build information" "version" [(version, 1)],
    .labelled "rulegate_decisions_total" "Decisions returned, by action label" "action"
      m.decisions.entries,
    .single "rulegate_evaluation_errors_total"
      "Evaluations aborted by an address family mismatch" .counter m.evaluationErrors.toNat,
    .single "rulegate_evaluations_total"
      "Total number of requests evaluated against a rule list" .counter m.evaluations.toNat,
    .single "rulegate_hit_table_entries" "Client addresses tracked in the hit table" .gauge
      m.clients,
    .labelled "rulegate_rule_matches_total" "Requests matched, by rule id" "rule_id"
      (m.ruleMatches.entries.map fun e => (toString e.1.toNat, e.2)),
    .single "rulegate_rule_parse_errors_total" "Rule texts rejected by the parser" .counter
      m.refused.toNat,
    .single "rulegate_rules_compiled_total" "Rules compiled successfully" .counter
      m.compiled.toNat]
  all.filter fun f => !f.samples.isEmpty

/-- The text of all families. -/
def text (m : Metrics) : String :=
  String.join (m.families.map MetricFamily.text)

end Metrics

end Turnstile
