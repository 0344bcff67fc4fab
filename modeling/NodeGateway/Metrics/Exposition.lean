import NodeGateway.Number.Decimal

/-!
# Metrics and Their Exposition

A **collector** is one named metric with its samples. A **registry** keeps the identities of the
collectors that it exposes: the name and the constant labels. It refuses a collector whose
identity it has already.

What a registry exposes is a list of families in the order of their names. Collectors with one
name share a family, its samples are in the order of their label values, and a family without
samples is left out.
-/

namespace NodeGateway

/-- The **kind** of a metric. -/
inductive MetricKind where
  | gauge
  | counter
  deriving DecidableEq, Repr

/-- The written form of a kind. -/
def MetricKind.name : MetricKind → String
  | gauge => "gauge"
  | counter => "counter"

/-- A **label**: a name and a value. -/
structure Label where
  name : String
  value : String
  deriving DecidableEq, Repr

/-- A **sample** of a metric: its own labels and its value. -/
structure Sample where
  labels : List Label
  value : Nat
  deriving Repr

/-- A **collector**: a metric with the labels that all its samples share. -/
structure Collector where
  name : String
  help : String
  kind : MetricKind
  constLabels : List Label
  samples : List Sample
  deriving Repr

/-- What tells one collector from another. -/
structure CollectorId where
  name : String
  constLabels : List Label
  deriving DecidableEq, Repr

/-- The identity of a collector. -/
def Collector.id (c : Collector) : CollectorId := ⟨c.name, c.constLabels⟩

/-- A **registry** of collectors. -/
structure Registry where
  known : List CollectorId := []
  deriving Repr, Inhabited

namespace Registry

/-- What a registry says about a collector that it has already. -/
def duplicateMessage : String := "Duplicate metrics collector registration attempted"

/-- **Registers** collectors one after another, up to the first that is refused. -/
def register : List Collector → Registry → Except String Unit × Registry
  | [], registry => (.ok (), registry)
  | c :: rest, registry =>
    if c.id ∈ registry.known then (.error duplicateMessage, registry)
    else register rest ⟨registry.known ++ [c.id]⟩

end Registry

/-- A **family**: all samples of the metrics of one name. -/
structure Family where
  name : String
  help : String
  kind : MetricKind
  samples : List Sample
  deriving Repr

namespace Family

/-- Whether the values of one list of labels come before those of another. -/
def labelsBefore : List Label → List Label → Bool
  | [], _ => true
  | _ :: _, [] => false
  | a :: as, b :: bs => a.value < b.value || (a.value = b.value && labelsBefore as bs)

/-- Inserts a sample in the order of label values. -/
def insertSample (sample : Sample) : List Sample → List Sample
  | [] => [sample]
  | other :: rest =>
    if labelsBefore sample.labels other.labels then sample :: other :: rest
    else other :: insertSample sample rest

/-- The family with more samples. -/
def addSamples (samples : List Sample) (family : Family) : Family :=
  { family with samples := samples.foldl (fun done s => insertSample s done) family.samples }

/-- Adds the samples of a collector to the family of its name, which is put in order if it is
new. -/
def insertCollector (c : Collector) : List Family → List Family
  | [] => [addSamples (full c) ⟨c.name, c.help, c.kind, []⟩]
  | family :: rest =>
    if family.name = c.name then family.addSamples (full c) :: rest
    else if c.name < family.name then
      addSamples (full c) ⟨c.name, c.help, c.kind, []⟩ :: family :: rest
    else family :: insertCollector c rest
where
  /-- The samples with the labels that they share. -/
  full (c : Collector) : List Sample :=
    c.samples.map fun s => { s with labels := c.constLabels ++ s.labels }

/-- A text with the characters escaped that would end a line. -/
def escapeHelp (text : String) : String :=
  String.ofList (text.toList.flatMap fun c =>
    if c = '\\' then ['\\', '\\'] else if c = '\n' then ['\\', 'n'] else [c])

/-- A label value with the characters escaped that would end it. -/
def escapeValue (text : String) : String :=
  String.ofList (text.toList.flatMap fun c =>
    if c = '\\' then ['\\', '\\'] else if c = '\n' then ['\\', 'n']
    else if c = '"' then ['\\', '"'] else [c])

/-- The labels of a sample, as they are written behind its name. -/
def renderLabels (labels : List Label) : String :=
  if labels.isEmpty then ""
  else
    let parts := labels.map fun l => l.name ++ "=\"" ++ escapeValue l.value ++ "\""
    "\x7b" ++ String.intercalate "," parts ++ "\x7d"

/-- The value of a sample. It is written as the binary64 number nearest to it. -/
def renderValue (n : Nat) : String := Decimal.render (Binary64.ofNat n)

/-- The written form of a family. -/
def render (family : Family) : String :=
  "# HELP " ++ family.name ++ " " ++ escapeHelp family.help ++ "\n"
    ++ "# TYPE " ++ family.name ++ " " ++ family.kind.name ++ "\n"
    ++ String.join (family.samples.map fun s =>
      family.name ++ renderLabels s.labels ++ " " ++ renderValue s.value ++ "\n")

end Family

namespace Registry

/-- The families that the registry exposes, given the collectors as they are now. -/
def gather (registry : Registry) (collectors : List Collector) : List Family :=
  let known := registry.known.filterMap fun id => collectors.find? (·.id = id)
  (known.foldl (fun families c => Family.insertCollector c families) []).filter
    (!·.samples.isEmpty)

/-- The families as text. -/
def exposition (registry : Registry) (collectors : List Collector) : String :=
  String.join ((registry.gather collectors).map Family.render)

end Registry

end NodeGateway
