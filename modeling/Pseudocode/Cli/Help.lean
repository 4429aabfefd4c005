import Pseudocode.Text.Blank

namespace Pseudocode.Cli

open Pseudocode.Text

/-- How a command is called: the name under which it complains, the line of its arguments, and the
explanation of them. -/
structure Manual where
  program : String
  usage : String
  explanation : String

namespace Manual

def help (manual : Manual) : String := manual.usage ++ "\n" ++ manual.explanation

def complaint (manual : Manual) (message : String) : String :=
  manual.usage ++ manual.program ++ ": error: " ++ message ++ "\n"

def general : Manual where
  program := "pseudorun"
  usage :=
    "usage: pseudorun [-h] [-c FILE] [-v] [-d] \x7brun,debug,config,validate,info\x7d ...\n"
  explanation :=
    unlines
      ["PseudoRun pseudocode interpreter",
       "",
       "positional arguments:",
       "  \x7brun,debug,config,validate,info\x7d",
       "                        Available commands",
       "    run                 Run a program",
       "    debug               Step through a program",
       "    config              Manage configuration",
       "    validate            Check block structure",
       "    info                Show interpreter information",
       "",
       "options:",
       "  -h, --help            show this help message and exit",
       "  -c FILE, --config FILE",
       "                        Load configuration from JSON file",
       "  -v, --verbose         Enable verbose output",
       "  -d, --debug           Enable debug logging",
       "",
       "Examples:",
       "  # Run a program",
       "  pseudorun run program.txt",
       "",
       "  # Step through with breakpoints on lines 3 and 7",
       "  pseudorun debug program.txt -b 3 -b 7",
       "",
       "  # Save configuration",
       "  pseudorun config --max-repeat 5000 --save",
       "",
       "  # Check structure only",
       "  pseudorun validate program.txt",
       "        "]

def run : Manual where
  program := "pseudorun run"
  usage :=
    unlines
      ["usage: pseudorun run [-h] [--no-vars] [--comment-char CHAR] [--max-repeat N]",
       "                     input"]
  explanation :=
    unlines
      ["positional arguments:",
       "  input                Program source file",
       "",
       "options:",
       "  -h, --help           show this help message and exit",
       "  --no-vars            Do not print the variable table",
       "  --comment-char CHAR  Comment prefix (default: //)",
       "  --max-repeat N       REPEAT-UNTIL iteration limit (default: 1000)"]

def debug : Manual where
  program := "pseudorun debug"
  usage := "usage: pseudorun debug [-h] [-b LINE] input\n"
  explanation :=
    unlines
      ["positional arguments:",
       "  input                 Program source file",
       "",
       "options:",
       "  -h, --help            show this help message and exit",
       "  -b LINE, --break LINE",
       "                        Breakpoint line (1-based), repeatable"]

def config : Manual where
  program := "pseudorun config"
  usage :=
    unlines
      ["usage: pseudorun config [-h] [--show] [--save] [--reset] [--comment-char CHAR]",
       "                        [--max-repeat N]"]
  explanation :=
    unlines
      ["options:",
       "  -h, --help           show this help message and exit",
       "  --show               Display current configuration",
       "  --save               Save current configuration to file",
       "  --reset              Reset to default configuration",
       "  --comment-char CHAR",
       "  --max-repeat N"]

def validate : Manual where
  program := "pseudorun validate"
  usage := "usage: pseudorun validate [-h] input\n"
  explanation :=
    unlines
      ["positional arguments:",
       "  input       Program source file",
       "",
       "options:",
       "  -h, --help  show this help message and exit"]

def info : Manual where
  program := "pseudorun info"
  usage := "usage: pseudorun info [-h]\n"
  explanation :=
    unlines
      ["options:",
       "  -h, --help  show this help message and exit"]

end Manual

end Pseudocode.Cli
