import CwebHighlight.Rpc.Session
import CwebHighlight.Settings.Load

/-!
# The language server as a program

The program reads `cweb.toml` from its directory, if there is one, and then serves one session. A
fault in the settings ends it before the first message.
-/

namespace CwebHighlight.Rpc

def settingsFile : String := "cweb.toml"

/-- What is printed when the settings cannot be loaded. -/
def launchFault (e : Settings.LoadError) : String := "Configuration error: " ++ e.message ++ "\n"

/-- The configuration of the server for some settings. -/
def serverConfig (s : Settings) : ServerConfig := ⟨s.serverName, s.languageId, .scanner⟩

def launch (files : Files) : Except Settings.LoadError ServerConfig := do
  return serverConfig (← Settings.load files [.optionalFile settingsFile])

end CwebHighlight.Rpc
