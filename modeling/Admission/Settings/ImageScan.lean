import Admission.Settings.Value

/-!
Settings for the vulnerabilities of images. A rule denies once a count reaches a threshold, and the
module takes the greatest count that it accepts, which is one less.
-/

namespace Admission.Settings

/-- Where the reports of image scans are found, and for which platform. -/
structure ScanSource where
  reportNamespace : String
  platform : String
  deriving DecidableEq, Repr

structure ImageScan where
  source : ScanSource
  ignoreMissingReport : Option Bool := none
  /-- The greatest accepted count of high severity. -/
  high : Option Int := none
  medium : Option Int := none
  deriving DecidableEq, Repr

def maxAccepted (threshold : Int) : Except SettingsFault Int :=
  if threshold - 1 < Number.minInteger then .error (.countOutOfRange threshold)
  else .ok (threshold - 1)

namespace ImageScan

def add (settings : ImageScan) (c : Criterion) : Except SettingsFault ImageScan :=
  match c.topic? with
  | some .imageScanned => do
    let ignore ← boolean c.value
    return { settings with ignoreMissingReport := some ignore }
  | some .cveHighCount => do
    let accepted ← maxAccepted (← count c)
    return { settings with high := some accepted }
  | some .cveMediumCount => do
    let accepted ← maxAccepted (← count c)
    return { settings with medium := some accepted }
  | _ => .error (.foreignCriterion c.name)

def ofCriteria (source : ScanSource) (criteria : List Criterion) :
    Except SettingsFault ImageScan :=
  criteria.foldlM add { source }

def limit (name : String) (accepted : Option Int) : List (String × Tree) :=
  (accepted.map fun n => (name, Tree.object [("total", .int n)])).toList

def toTree (settings : ImageScan) : Tree :=
  let limits := limit "high" settings.high ++ limit "medium" settings.medium
  Tree.object
    ((settings.ignoreMissingReport.map fun b =>
        ("ignoreMissingVulnerabilityReport", Tree.bool b)).toList ++
      (if limits.isEmpty then [] else [("maxSeverity", Tree.object limits)]) ++
      [("platform",
          Tree.object [("arch", .text settings.source.platform), ("os", .text "linux")]),
        ("vulnerabilityReportNamespace", .text settings.source.reportNamespace)])

end ImageScan
end Admission.Settings
