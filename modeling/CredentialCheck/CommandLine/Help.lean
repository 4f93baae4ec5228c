/-!
# Help on the command line

The texts that explain how the command is used.
-/

namespace CredentialCheck.CommandLine

/-- The name of the command. -/
def programName : String := "anoncreds-validate"

/-- The lines on how to call the command. -/
def usage : String :=
  "usage: anoncreds-validate [-h] [--kind \x7bany,uri,legacy\x7d] [--schema FILE]\n" ++
  "                          [--cred-def FILE]\n" ++
  "                          [--log-level \x7bDEBUG,INFO,WARNING,ERROR,CRITICAL\x7d]\n" ++
  "                          [--log-file LOG_FILE]\n" ++
  "                          [identifiers ...]\n"

/-- The whole help. -/
def help : String :=
  usage ++
  "\nValidate AnonCreds identifiers and documents\n" ++
  "\npositional arguments:\n" ++
  "  identifiers           Identifiers to check\n" ++
  "\noptions:\n" ++
  "  -h, --help            show this help message and exit\n" ++
  "  --kind \x7bany,uri,legacy\x7d\n" ++
  "                        Identifier format to accept\n" ++
  "  --schema FILE         Schema JSON file to validate (repeatable)\n" ++
  "  --cred-def FILE       Credential definition JSON file to validate\n" ++
  "                        (repeatable)\n" ++
  "  --log-level \x7bDEBUG,INFO,WARNING,ERROR,CRITICAL\x7d\n" ++
  "  --log-file LOG_FILE   Also log to this file\n"

end CredentialCheck.CommandLine
