import DeviceAlerts.Form.Value
import DeviceAlerts.Monitor.Reporting

/-! Records as responses show them. A record can be shown only if its fields have the types that a
response promises; moments appear as `time` writes them. -/

namespace DeviceAlerts.Web

open DeviceAlerts.Form DeviceAlerts.Number DeviceAlerts.Time

/-- A moment in a response. -/
def bodyTime (m : Moment) : Datum := .text m.bodyText

/-- A field that holds a moment, or nothing. -/
def showTime : Datum → Checked Datum
  | .moment m => .sound (bodyTime m)
  | .null => .sound .null
  | other => .refuse other "datetime_type" "Input should be a valid datetime"

def showText (d : Datum) : Checked Datum := (readText d).map .text

def showInteger (d : Datum) : Checked Datum := (readInteger d).map .int

def showIntegers (items : List Datum) : Checked Datum :=
  (readIntegers (.list items)).map fun ids => .list (ids.map .int)

/-- A record of fields that are shown one by one. -/
def showRecord : List (String × Checked Datum) → Checked Datum
  | fields => (go fields).map .record
where
  go : List (String × Checked Datum) → Checked (List (String × Datum))
    | [] => .sound []
    | (name, value) :: rest => (fun d ds => (name, d) :: ds) <$> value <*> go rest

/-- All items, if each of them can be shown. -/
def showAll {α : Type} (view : α → Checked Datum) : List α → Checked (List Datum)
  | [] => .sound []
  | a :: rest => List.cons <$> view a <*> showAll view rest

/-- A list of items and their number. -/
def listing (items : List Datum) : Datum :=
  .record [("items", .list items), ("total", .int items.length)]

def deviceView (d : Device) : Checked Datum :=
  showRecord [("name", showText d.name), ("deviceType", showText d.type),
    ("address", showText d.address), ("responsible", showIntegers d.responsible),
    ("id", showInteger d.id), ("createdAt", showTime d.createdAt),
    ("updatedAt", showTime d.updatedAt)]

def tagView (t : Tag) (active : Bool) : Checked Datum :=
  let c := t.condition
  showRecord [("id", showInteger t.id), ("name", showText t.name),
    ("deviceId", showInteger t.deviceId), ("regexp", showText c.regexp),
    ("compareType", showText c.compareType), ("value", showText c.value),
    ("arrayIndex", showInteger c.arrayIndex), ("subject", showText t.subject),
    ("severityLevel", showText t.severity), ("active", .sound (.bool active)),
    ("createdAt", showTime t.createdAt), ("updatedAt", showTime t.updatedAt)]

def deviceFields (d : Device) : List (String × Checked Datum) :=
  [("name", showText d.name), ("device_type", showText d.type), ("address", showText d.address),
    ("responsible", showIntegers d.responsible)]

/-- A message with what is known of its device. -/
def messageView (m : Message) (d : Device) : Checked Datum :=
  showRecord (("device_id", showInteger m.deviceId) :: deviceFields d ++
    [("message", showText m.text), ("message_type", showText m.type),
      ("severity_level", showText m.severity), ("component", showText m.component),
      ("got_at", showTime m.received)])

def countView (count : Int) (deviceId : Datum) (d : Device) : Checked Datum :=
  showRecord (("device_id", showInteger deviceId) :: deviceFields d ++
    [("count", .sound (.int count))])

def outcomeView (o : Outcome) (d : Device) : Checked Datum :=
  showRecord [("device_id", showInteger o.message.deviceId), ("device_name", showText d.name),
    ("notify", .sound (.bool o.notify)), ("subject", showText o.subject),
    ("text", showText o.text), ("severity_level", showText o.message.severity),
    ("tag_id", (readOptional showInteger o.tagId).map fun id => id.getD .null),
    ("hysteresis", .sound (o.transition.elim .null fun t => .text t.text))]

/-- A moment as a report has it. -/
def timeOr (time : Moment → Datum) : Datum → Datum
  | .moment m => time m
  | other => other

/-- A row of the month report. -/
def rowView (time : Moment → Datum) (r : Report.Row) : Datum :=
  let f := r.figures
  .record [("device_id", .int r.deviceId), ("name", .text r.name),
    ("message_type", .text r.type), ("active_days", .int f.activeDays),
    ("total_messages", .int f.total), ("avg_daily_messages", .float f.average),
    ("max_daily_messages", .int f.greatest), ("median_daily_messages", .float f.median),
    ("total_critical", .int f.critical), ("max_daily_critical", .int f.greatestCritical),
    ("max_daily_components", .int f.greatestComponents),
    ("most_active_component", r.mostActive.elim .null .text),
    ("first_critical_at", timeOr time f.firstCritical),
    ("last_critical_at", timeOr time f.lastCritical),
    ("avg_critical_interval_sec", f.interval.elim .null .float),
    ("critical_percentage", .float f.percentage), ("volume_rank", .int r.rank)]

def reportView (time : Moment → Datum) (r : Monitor.MonthReport) : Datum :=
  .record [("start", time r.start), ("items", .list (r.rows.map (rowView time))),
    ("total", .int r.rows.length)]

end DeviceAlerts.Web
