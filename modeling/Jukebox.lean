import Jukebox.Text.Blank
import Jukebox.Text.Lower
import Jukebox.Text.Printable
import Jukebox.Text.Quoted
import Jukebox.Text.Printf
import Jukebox.Text.Integer
import Jukebox.Text.Latin
import Jukebox.Json
import Jukebox.Fault
import Jukebox.Catalog.Row
import Jukebox.Catalog.Store
import Jukebox.Catalog.Query
import Jukebox.Catalog.Write
import Jukebox.Catalog.Document
import Jukebox.Catalog.Resolve
import Jukebox.Catalog.Script
import Jukebox.Service.Outcome
import Jukebox.Service.Songs
import Jukebox.Service.Playlists
import Jukebox.Service.Shelves
import Jukebox.Service.Accounts
import Jukebox.Call
import Jukebox.Settings.Environment
import Jukebox.Settings.Duration
import Jukebox.Settings.EnvFile
import Jukebox.Settings.Config
import Jukebox.Console.Flag
import Jukebox.Console.Command
import Jukebox.Console.Help
import Jukebox.Console.Demo
import Jukebox.Console.Task
import Jukebox.Console.Run
import Jukebox.Main
import Jukebox.Proofs.Transaction
import Jukebox.Proofs.Valid
import Jukebox.Proofs.Calls
import Jukebox.Proofs.Counters
import Jukebox.Proofs.Membership
import Jukebox.Proofs.Resolution
import Jukebox.Proofs.Faults
import Jukebox.Proofs.SongWrites
import Jukebox.Proofs.StaleFiles
import Jukebox.Proofs.Search
import Jukebox.Proofs.Cascade
import Jukebox.Proofs.FindOrAdd
import Jukebox.Proofs.Likes
import Jukebox.Proofs.Guards
import Jukebox.Proofs.Rounds
import Jukebox.Proofs.Display
import Jukebox.Proofs.Patches
import Jukebox.Proofs.Listings
import Jukebox.Proofs.Cancellation
