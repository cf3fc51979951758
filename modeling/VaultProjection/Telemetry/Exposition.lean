import VaultProjection.Telemetry.Meter
import VaultProjection.Decimal.Shortest
/-!
The registry as text for a metrics scraper: meters by name, series by label, each meter with its
help and type. A meter whose series are told apart by a label is left out while it has none.
-/

namespace VaultProjection.Exposition

/-! ## Lines -/

/-- A label's value with quotes, backslashes and line ends escaped. -/
def labelValue (s : String) : String :=
  String.ofList (s.toList.flatMap fun c =>
    if c = '\\' then ['\\', '\\'] else if c = '"' then ['\\', '"']
    else if c = '\n' then ['\\', 'n'] else [c])

/-- Labels in braces, nothing when there are none. -/
def labels (pairs : List (String × String)) : String :=
  if pairs.isEmpty then ""
  else "\x7b" ++ String.intercalate "," (pairs.map fun (k, v) => k ++ "=\"" ++ labelValue v ++ "\"")
    ++ "\x7d"

def line (name : String) (pairs : List (String × String)) (value : String) : String :=
  name ++ labels pairs ++ " " ++ value ++ "\n"

/-- The label of a series as a pair; none for a meter with a single series. -/
def ownLabel (m : Meter) (value : String) : List (String × String) :=
  match m.label? with
  | some k => [(k, value)]
  | none => []

/-! ## Meters -/

def seriesLines (m : Meter) (label : String) (s : Series) : String :=
  let own := ownLabel m label
  match m.kind with
  | .histogram bounds =>
    String.join ((bounds.zip s.within).map fun (b, n) =>
      line (m.name ++ "_bucket") (own ++ [("le", Decimal.plainText b)]) (toString n))
      ++ line (m.name ++ "_bucket") (own ++ [("le", "+Inf")]) (toString s.count)
      ++ line (m.name ++ "_sum") own (Decimal.plainText s.sum)
      ++ line (m.name ++ "_count") own (toString s.count)
  | _ => line m.name own (Decimal.plainText (.ofNat s.count))

def typeName : MeterKind → String
  | .counter => "counter"
  | .gauge => "gauge"
  | .histogram _ => "histogram"

/-- The series that are shown: one that counts nothing stands for a meter without labels. -/
def shownSeries (m : Meter) (es : Entries Series) : Entries Series :=
  match m.label?, es with
  | none, [] => [("", .empty)]
  | _, es => es

def meterText (r : Registry) (m : Meter) : String :=
  let es := shownSeries m (r.series m)
  if es.isEmpty then ""
  else "# HELP " ++ m.name ++ " " ++ m.help ++ "\n# TYPE " ++ m.name ++ " " ++ typeName m.kind
    ++ "\n" ++ String.join (es.map fun (l, s) => seriesLines m l s)

/-- The whole text; nothing before the meters have been registered. -/
def text (registered : Bool) (r : Registry) : String :=
  if registered then
    String.join ((Meter.all.mergeSort fun a b => a.name ≤ b.name).map (meterText r))
  else ""

/-! ## Movement -/

/-- How far each series has moved from nothing, by its name without the common start; histograms
show how many values they saw. Series that did not move are left out. -/
def movement (r : Registry) : Entries Nat :=
  Entries.ofList (r.flatMap fun (m, es) => es.filterMap fun (l, s) =>
    let name := match m.kind with
      | .histogram _ => m.shortName ++ "_count"
      | _ => m.shortName
    if s.count = 0 then none else some (name ++ labels (ownLabel m l), s.count))

end VaultProjection.Exposition
