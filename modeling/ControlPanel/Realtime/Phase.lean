/-!
# Phases of a connection
-/

namespace ControlPanel

inductive Phase where
  | connecting
  | opened
  | closing
  | closed
  deriving DecidableEq, Repr

namespace Phase

def all : List Phase := [connecting, opened, closing, closed]

def name : Phase → String
  | connecting => "CONNECTING"
  | opened => "OPEN"
  | closing => "CLOSING"
  | closed => "CLOSED"

def label : Phase → String
  | connecting => "Connecting"
  | opened => "Open"
  | closing => "Closing"
  | closed => "Closed"

end Phase

end ControlPanel
