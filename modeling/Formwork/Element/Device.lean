/-
  Formwork.Element.Device: the kind of device that a visitor uses.

  The kind is read off the words of the user agent in lower case. Words for phones go before
  words for tablets; a device that names neither is a desktop.
-/

import Formwork.Element.Submission
import Formwork.Text.Lowercase
import Formwork.Text.Search

namespace Formwork.DeviceKind

def phoneWords : List String :=
  ["mobile", "android", "iphone", "ipod", "blackberry", "windows phone"]

def tabletWords : List String := ["ipad", "tablet", "playbook", "silk"]

def ofUserAgent (agent : String) : DeviceKind :=
  let agent := Text.lower agent
  if phoneWords.any (Text.contains agent) then mobile
  else if tabletWords.any (Text.contains agent) then tablet
  else desktop

end Formwork.DeviceKind
