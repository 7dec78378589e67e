import Garak.Argparse.Parser
import Garak.Argparse.Subcommands
import Garak.Argparse.Written
import Garak.Build.GetVersion
import Garak.Build.Proofs.Configure
import Garak.Build.Proofs.Garak
import Garak.Build.Proofs.GetVersion
import Garak.Build.Proofs.Lists
import Garak.Build.Proofs.Project
import Garak.Build.Proofs.Reconfigure
import Garak.Build.Proofs.Sessions
import Garak.Build.Proofs.Warnings
import Garak.Build.Scripts
import Garak.Build.Workspace
import Garak.Cmake.Caching
import Garak.Cmake.Matching
import Garak.Cmake.Rules
import Garak.Cmake.Script
import Garak.Cmake.Values
import Garak.Misc.Leftmost
import Garak.Misc.Lists
import Garak.Misc.Runs
import Garak.Misc.Transducer
import Garak.Pathlib.FileSystem
import Garak.Pathlib.Path
import Garak.Pathlib.Tree
import Garak.Posix.Shell.BareWords
import Garak.Posix.Shell.Decoding
import Garak.Posix.Shell.Expansion
import Garak.Posix.Shell.Kept
import Garak.Posix.Shell.Lexer
import Garak.Posix.Shell.Line
import Garak.Posix.Shell.Pattern
import Garak.Posix.Shell.Reading
import Garak.Posix.Shell.Unquoted
import Garak.Tooling.Clang
import Garak.Tooling.CommandLine
import Garak.Tooling.Compiler
import Garak.Tooling.Devkit
import Garak.Tooling.Packager
import Garak.Tooling.Proofs.Aggregate
import Garak.Tooling.Proofs.Blind
import Garak.Tooling.Proofs.BuildDir
import Garak.Tooling.Proofs.Calls
import Garak.Tooling.Proofs.CommandLine
import Garak.Tooling.Proofs.CommandText
import Garak.Tooling.Proofs.CompileText
import Garak.Tooling.Proofs.CompilerRuns
import Garak.Tooling.Proofs.Construct
import Garak.Tooling.Proofs.ExitStatus
import Garak.Tooling.Proofs.Issues
import Garak.Tooling.Proofs.Main
import Garak.Tooling.Proofs.Reuse
import Garak.Tooling.Proofs.Rewriting
import Garak.Tooling.Proofs.Selection
import Garak.Tooling.Proofs.Traversal
import Garak.Tooling.Proofs.Walk
import Garak.Tooling.Settings
import Garak.Tooling.Utils
import Garak.Version.GetVersion
import Garak.Version.Header
import Garak.Version.Literal
import Garak.Version.Proofs.Agreement
import Garak.Version.Proofs.Digits
