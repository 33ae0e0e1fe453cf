import DeviceAlerts.Form.DeviceForm
import DeviceAlerts.Form.SubmissionForm
import DeviceAlerts.Form.TagForm

/-! The forms that are accepted, read on their own. -/

namespace DeviceAlerts

inductive Form
  | newDevice
  | deviceChange
  | newTag
  | tagChange
  | submission
  deriving DecidableEq

namespace Form

def name : Form → String
  | newDevice => "DeviceCreate"
  | deviceChange => "DeviceUpdate"
  | newTag => "TagCreate"
  | tagChange => "TagUpdate"
  | submission => "SendMessageRequest"

def ofName? (s : String) : Option Form :=
  [newDevice, deviceChange, newTag, tagChange, submission].find? fun f => f.name = s

def fields : Form → List Field
  | newDevice | deviceChange => DeviceField.all
  | newTag | tagChange => TagField.all
  | submission => SubmissionField.all

/-- The form as it is understood, under the outer names of its fields. -/
def understand (form : Form) (given : Datum) : Checked Datum :=
  match form with
  | newDevice => (DeviceForm.read given).map DeviceForm.record
  | deviceChange => (DevicePatch.read given).map DevicePatch.record
  | newTag => (TagForm.read given).map TagForm.record
  | tagChange => (TagPatch.read given).map TagPatch.record
  | submission => (readSubmission given).map submissionRecord

/-- Only records can be read as forms. -/
def check (form : Form) (given : Datum) : Checked Datum :=
  match given with
  | .record _ => form.understand given
  | _ =>
    .refuse given "model_type" ("Input should be a valid dictionary or instance of " ++ form.name)

/-- The inner names of the fields that are given. -/
def givenFields (form : Form) (given : Datum) : List String :=
  ((form.fields.filter fun f => f.isGiven given).map (·.inner)).mergeSort (· ≤ ·)

end Form

end DeviceAlerts
