import MailReplica.Header.Address
import MailReplica.Header.Date
import MailReplica.Header.Field
import MailReplica.Message

/-! # Records of downloaded messages

What the local store keeps of a message is made from its listing and from its octets: subject and
sender come from the header, and so does the date if the listing has none.
-/

namespace MailReplica.MessageRecord

def headerDate? (fields : List Header.Field) : Option Instant := do
  let field ← Header.lastField? "Date" fields
  let seconds ← Header.dateSeconds? field.value
  let instant : Instant := ⟨seconds, 0⟩
  if instant.inCalendar then some instant else none

/-- The record of a message listed as `listed` whose downloaded octets are `raw`. -/
def ofDownload (listed : Listed) (raw : Octets) (state : DownloadState) : MessageRecord :=
  let fields := Header.fields raw
  { id := listed.id
    flags := listed.flags
    state := state
    date := (listed.date.map DatedInstant.instant).or (headerDate? fields)
    size := listed.size
    subject := ((Header.lastField? "Subject" fields).map (Header.phrase ·.value)).getD ""
    sender := ((Header.lastField? "From" fields).map (Header.senders ·.value)).getD ""
    body := some raw }

end MailReplica.MessageRecord
