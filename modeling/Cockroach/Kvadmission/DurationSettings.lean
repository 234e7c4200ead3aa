import Cockroach.Kvadmission.Basic

/-!
# The elastic CPU duration settings

`kvadmission.go` registers two duration settings: the CPU time granted to each export
request, and to each unit of work of a rangefeed catch-up scan.  They differ only in
the text of their errors, so one validation function with the two error formats as
parameters (`validateElasticCPUDuration`) serves both.

`validateElasticCPUDuration_eq_none_iff`: a duration is accepted exactly when it lies
between `admission.MinElasticCPUDuration` and `admission.MaxElasticCPUDuration`,
compared as `int64`s; a rejected duration's error is the message of the bound it
violates, formatted with that bound and the duration
(`validateElasticCPUDuration_eq_some`).  Each setting's default, the maximum, passes its
own check exactly when the bounds are in order (`elasticCPUDurationSettings_default`).
The two bounds and Go's formatting of a duration belong to other packages and are
parameters.
-/

namespace Kvadmission

/-! ## Algorithm -/

/-- `fmt.Sprintf` for a format whose only verbs are `%s`, each taking the next
argument. -/
def sprintf : List Char → List String → String
  | '%' :: 's' :: format, arg :: args => arg ++ sprintf format args
  | c :: format, args => ⟨[c]⟩ ++ sprintf format args
  | [], _ => ""

/-- `fmt.Errorf` for such a format. -/
def errorf (format : String) (args : List String) : GoError := ⟨sprintf format.toList args⟩

example : errorf "minimum CPU duration allowed is %s, got %s" ["10ms", "5ms"] =
    ⟨"minimum CPU duration allowed is 10ms, got 5ms"⟩ := by decide

/-- What `settings.RegisterDurationSetting` is given and the controller depends on: the
default and the validation function. -/
structure DurationSetting where
  defaultValue : Duration
  validate : Duration → Option GoError

section
variable (minElasticCPUDuration maxElasticCPUDuration : Duration)
  (formatDuration : Duration → String)

/-- The validation function of both settings, with its two error formats. -/
def validateElasticCPUDuration (minimumFormat maximumFormat : String) (duration : Duration) :
    Option GoError :=
  if duration.slt minElasticCPUDuration then
    some (errorf minimumFormat [formatDuration minElasticCPUDuration, formatDuration duration])
  else if maxElasticCPUDuration.slt duration then
    some (errorf maximumFormat [formatDuration maxElasticCPUDuration, formatDuration duration])
  else none

/-- `elasticCPUDurationPerExportRequest`. -/
def elasticCPUDurationPerExportRequest : DurationSetting where
  defaultValue := maxElasticCPUDuration
  validate := validateElasticCPUDuration minElasticCPUDuration maxElasticCPUDuration formatDuration
    "minimum CPU duration allowed per export request is %s, got %s"
    "maximum CPU duration allowed per export request is %s, got %s"

/-- `elasticCPUDurationPerRangefeedScanUnit`. -/
def elasticCPUDurationPerRangefeedScanUnit : DurationSetting where
  defaultValue := maxElasticCPUDuration
  validate := validateElasticCPUDuration minElasticCPUDuration maxElasticCPUDuration formatDuration
    "minimum CPU duration allowed is %s, got %s"
    "maximum CPU duration allowed is %s, got %s"

/-- The two elastic CPU duration settings. -/
def elasticCPUDurationSettings : List DurationSetting :=
  [elasticCPUDurationPerExportRequest minElasticCPUDuration maxElasticCPUDuration formatDuration,
    elasticCPUDurationPerRangefeedScanUnit minElasticCPUDuration maxElasticCPUDuration
      formatDuration]

/-! ## Lemmas -/

/-- A duration is accepted exactly when it lies between the two bounds as an `int64`. -/
theorem validateElasticCPUDuration_eq_none_iff (minimumFormat maximumFormat : String)
    (duration : Duration) :
    validateElasticCPUDuration minElasticCPUDuration maxElasticCPUDuration formatDuration
        minimumFormat maximumFormat duration = none ↔
      minElasticCPUDuration.toInt ≤ duration.toInt ∧
        duration.toInt ≤ maxElasticCPUDuration.toInt := by
  unfold validateElasticCPUDuration
  split_ifs with hmin hmax <;> simp_all [BitVec.slt]

/-- A rejected duration gets the error of the bound it violates, with that bound and
the duration. -/
theorem validateElasticCPUDuration_eq_some {minimumFormat maximumFormat : String}
    {duration : Duration} {err : GoError}
    (h : validateElasticCPUDuration minElasticCPUDuration maxElasticCPUDuration formatDuration
      minimumFormat maximumFormat duration = some err) :
    duration.toInt < minElasticCPUDuration.toInt ∧
        err = errorf minimumFormat [formatDuration minElasticCPUDuration, formatDuration duration] ∨
      maxElasticCPUDuration.toInt < duration.toInt ∧
        err = errorf maximumFormat [formatDuration maxElasticCPUDuration, formatDuration duration] := by
  unfold validateElasticCPUDuration at h
  split_ifs at h with hmin hmax <;> simp_all [BitVec.slt]

/-- Every setting's default passes its own check exactly when the bounds are in order. -/
theorem elasticCPUDurationSettings_default :
    ∀ s ∈ elasticCPUDurationSettings minElasticCPUDuration maxElasticCPUDuration formatDuration,
      s.validate s.defaultValue = none ↔ minElasticCPUDuration.toInt ≤ maxElasticCPUDuration.toInt := by
  simp only [elasticCPUDurationSettings, List.mem_cons, List.mem_singleton, List.not_mem_nil,
    or_false]
  rintro s (rfl | rfl) <;>
    simp [elasticCPUDurationPerExportRequest, elasticCPUDurationPerRangefeedScanUnit,
      validateElasticCPUDuration_eq_none_iff]

end

end Kvadmission
