import Switchyard.Json.Printer
import Switchyard.Port
import Switchyard.Router.Basic

/-! What is written: one outcome a line, or the list of ports. -/

namespace Switchyard

namespace Router

def line (r : Router) (document : Json) : List Char :=
  (r.outcome document).toJson.write ++ ['\n']

end Router

namespace Configuration

def routedText (c : Configuration) (documents : List Json) : String :=
  String.ofList (documents.flatMap (Router.ofConfiguration c).line)

def portsText (c : Configuration) : String :=
  (Json.arr (c.ports.map Port.toJson)).printIndented ++ "\n"

end Configuration

end Switchyard
