import LspBridge.Console.Wire
import LspBridge.Console.Lifecycle
import LspBridge.Console.Bridge
/-!
# Answering console commands

`Console.answer` runs one command object, chosen by its `op` member, and gives its answer object;
`Console.answerLine` does the same from and to JSON text. A command that cannot be read as JSON or
names no known operation is answered with a `BadInput` error.
-/

namespace LspBridge

namespace Console

open Json

/-- Runs one command. -/
def run (cmd : Value) : Decode Value :=
  match cmd.field "op" with
  | .string "read_frames" => readFramesCommand cmd
  | .string "write_frame" => writeFrameCommand cmd
  | .string "decode" => decodeCommand cmd
  | .string "encode" => encodeCommand cmd
  | .string "message_method" => messageMethodCommand cmd
  | .string "negotiate" => negotiateCommand cmd
  | .string "config_toml" => configTomlCommand cmd
  | .string "config_new" => configNewCommand cmd
  | .string "config_spring_boot" => configSpringBootCommand cmd
  | .string "config_build" => configBuildCommand cmd
  | .string "config_load" => configLoadCommand cmd
  | .string "restart_delay" => restartDelayCommand cmd
  | .string "state_transition" => stateTransitionCommand cmd
  | .string "xml_namespace" => xmlNamespaceCommand cmd
  | .string "supported_language" => supportedLanguageCommand cmd
  | .string "spring_module" => springModuleCommand cmd
  | .string "file_supported" => fileSupportedCommand cmd
  | .string "uri_from_path" => uriFromPathCommand cmd
  | .string "path_from_uri" => pathFromUriCommand cmd
  | .string "initialize_params" => initializeParamsCommand cmd
  | .string "client_capabilities" => clientCapabilitiesCommand cmd
  | .string "session" => sessionCommand cmd
  | .string "supervisor" => supervisorCommand cmd
  | .string "process" => processCommand cmd
  | .string "bridge" => bridgeCommand cmd
  | op => bad ("unknown op " ++ op.render)

/-- The answer object of one command. -/
def answer (cmd : Value) : Value :=
  match run cmd with
  | .ok v => v
  | .error e => e.answer

/-- The answer to one line of JSON text, as compact JSON text. -/
def answerLine (line : String) : String :=
  match Json.readText line with
  | .ok cmd => (answer cmd).render
  | .error _ => (BadInput.answer ⟨"input is not JSON"⟩).render

end Console

end LspBridge
