import CertPress.Shell.Condition
import CertPress.Shell.Digest
import CertPress.Shell.Edit.Stream
import CertPress.Shell.Utility.Characters
import CertPress.Shell.Utility.Comparison
import CertPress.Shell.Utility.Digests
import CertPress.Shell.Utility.Figures
import CertPress.Shell.Utility.Find
import CertPress.Shell.Utility.Lines
import CertPress.Shell.Utility.Search

/-!
# The programs of the system

The table of the programs that a script finds in the directories of the system,
apart from the shells.
-/

namespace CertPress.Shell

open ShellAction

/-- Answer a question as a program. -/
def askAsProgram (needsBracket : Bool) : Utility := fun call => do
  let isClosed := call.arguments.getLast? = some "]"
  if needsBracket && !isClosed then
    call.complain "missing ']'"
    return 2
  let words := if needsBracket then call.arguments.dropLast else call.arguments
  match answerTo (← get) (words.length + 1) words with
  | .ok answer => return if answer then 0 else 1
  | .error fault =>
      let text := match Text.after? "Illegal number: ".toList fault.text.toList with
        | some number => "invalid integer " ++ quotedName (String.ofList number)
        | none => fault.text
      call.complain text
      return 2

/-- Print that the input is no terminal. -/
def printTerminal : Utility :=
  withOptions "s" [("silent", 's'), ("quiet", 's')] 2 fun call options => do
  if !options.has 's' then sayLine call "not a tty"
  return 1

/-- The programs that start no other ones. -/
def programs : List (String × Utility) :=
  [("[", askAsProgram true), ("test", askAsProgram false), ("true", endWith 0),
   ("false", endWith 1), ("sync", endWith 0), ("arch", printFixed "x86_64" 0),
   ("nproc", printFixed "1" 0), ("date", printFixed "Thu Jan  1 00:00:00 UTC 1970" 0),
   ("hostname", printFixed "localhost" 0), ("tty", printTerminal),
   ("echo", printArguments), ("printf", printByFormat), ("yes", printEndlessly),
   ("basename", printLastPart), ("dirname", printDirectoryPart), ("pwd", printDirectory),
   ("which", printPrograms), ("printenv", printEnvironment), ("uname", printSystem),
   ("whoami", printUser), ("id", printIdentity), ("sleep", waitSome),
   ("cat", concatenate), ("head", printStart), ("tail", printEnd), ("wc", printCounts),
   ("tac", printReversed), ("rev", printMirrored), ("nl", printNumbered), ("fold", foldLines),
   ("expand", expandTabs), ("cut", cutLines), ("paste", pasteLines), ("tee", printAndWrite),
   ("sort", sortLines), ("uniq", distinctLines), ("comm", compareSorted),
   ("tr", translate), ("grep", searchLines false none), ("egrep", searchLines true none),
   ("fgrep", searchLines false (some ('F', ""))), ("sed", editLines),
   ("cmp", compareBytes), ("diff", compareLines), ("expr", evaluateWords), ("seq", printSeries),
   ("md5sum", printDigests "MD5" Digest.md5), ("sha1sum", printDigests "SHA1" Digest.sha1),
   ("sha256sum", printDigests "SHA256" Sha256.hexDigest), ("cksum", printChecksums),
   ("base64", convertDigits), ("od", dumpBytes), ("cp", copyFiles), ("mv", moveFiles),
   ("rm", removeFiles), ("unlink", removeOne), ("mkdir", makeDirectories),
   ("rmdir", removeDirectories), ("touch", touchFiles), ("ln", linkFiles), ("chmod", changeModes),
   ("chown", changeOwners false),
   ("chgrp", changeOwners true), ("install", installFiles),
   ("truncate", resizeFiles), ("mktemp", makeTemporary), ("dd", copyBlocks), ("ls", listFiles),
   ("realpath", printRealPaths), ("readlink", printLinks), ("stat", printFacts)]

/-- The programs that start other ones. -/
def callingPrograms : List (String × (Runner → Utility)) :=
  [("env", runWithVariables), ("xargs", runWithItems), ("timeout", runForTime), ("nohup", runOn),
   ("setsid", runOn), ("nice", runNicely), ("stdbuf", runBuffered), ("find", findFiles)]

/-- Whether there is something to run for the name of a program. -/
def isRunnable (name : String) : Bool :=
  shellNames.contains name || programs.any (·.1 == name) || callingPrograms.any (·.1 == name)

/-- Every program that a script finds can be run. -/
theorem programNames_runnable : programNames.all isRunnable = true := by decide

end CertPress.Shell
