import DeviceAlerts.Form.Value
import DeviceAlerts.Monitor.Intake

/-! The form by which devices send messages. -/

namespace DeviceAlerts.Form

open DeviceAlerts.Monitor

namespace SubmissionField

def text : Field := .named "message"
def type : Field := .named "message_type"
def component : Field := .named "component"
def address : Field := .named "address"

def all : List Field := [text, type, component, address]

end SubmissionField

def readSubmission (form : Datum) : Checked Submission :=
  Submission.mk <$> SubmissionField.text.required readSomeText form
    <*> SubmissionField.type.required readSomeText form
    <*> SubmissionField.component.required readSomeText form
    <*> SubmissionField.address.required readSomeText form

def submissionRecord (s : Submission) : Datum :=
  .record [("message", .text s.text), ("message_type", .text s.type),
    ("component", .text s.component), ("address", .text s.address)]

end DeviceAlerts.Form
