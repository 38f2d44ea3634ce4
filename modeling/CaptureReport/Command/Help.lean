import CaptureReport.Format
import CaptureReport.Report.Encoder

/-!
# Texts that answer without a run

The version, the list of formats, and the help of the command.
-/

namespace CaptureReport.Command

/-- The answer to a request for the version. -/
def versionText : String :=
  Report.banner ++ "\n"

/-- A text with blanks behind it up to a given length. -/
def padded (width : Nat) (text : String) : String :=
  text ++ String.ofList (List.replicate (width - text.length) ' ')

/-- The line of a format in the list: its id in a column of eight, and its description. -/
def formatLine (format : Format) : String :=
  padded 8 format.id ++ format.description ++ "\n"

/-- The list of all formats, a line each. -/
def formatList : String :=
  String.join (Format.all.map formatLine)

/-- The answer to a request for help. -/
def helpText : String :=
  String.join <| List.map (· ++ "\n")
    ["Render a raw logic capture as a hexadecimal text report",
     "",
     "Usage: logic-hex [OPTIONS] [INPUT]",
     "",
     "Arguments:",
     "  [INPUT]  Raw capture to read; `-` or nothing reads stdin",
     "",
     "Options:",
     "  -c, --config <CONFIG>          TOML settings file",
     "  -o, --output <OUTPUT>          Report destination; stdout when omitted",
     "      --channels <CHANNELS>      Number of logic channels in the capture",
     "      --unitsize <UNITSIZE>      Bytes per sample",
     "      --samplerate <SAMPLERATE>  Sample rate in Hz",
     "      --enable <ENABLE>          Comma separated list of channel indices to include",
     "  -w, --width <WIDTH>            Samples per output line",
     "  -t, --trigger-at <TRIGGER_AT>  Report a trigger before this sample number",
     "  -f, --format <FORMAT>          Output format id",
     "      --list-formats             Print the available output formats and exit",
     "  -v, --verbose...               More log output; repeat for more detail",
     "  -h, --help                     Print help",
     "  -V, --version                  Print version"]

end CaptureReport.Command
