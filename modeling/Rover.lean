import Rover.Atlas.Printer
import Rover.Bag.View
import Rover.Json.Codec
import Rover.Main
import Rover.Proofs.Alike
import Rover.Proofs.Doors
import Rover.Proofs.Draft
import Rover.Proofs.Failure
import Rover.Proofs.Farewell
import Rover.Proofs.Fuel
import Rover.Proofs.History
import Rover.Proofs.Labels
import Rover.Proofs.Margin
import Rover.Proofs.Overflow
import Rover.Proofs.Picture
import Rover.Proofs.Records
import Rover.Proofs.Retrace
import Rover.Proofs.RoundTrip
import Rover.Proofs.Rounds
import Rover.Proofs.Run
import Rover.Proofs.Stock
import Rover.Station
import Rover.Proofs.Census
import Rover.Proofs.Whereabouts
import Rover.Proofs.Energy
import Rover.Proofs.Playthrough
import Rover.Proofs.Onlooking
import Rover.Proofs.Words
import Rover.Proofs.Grammar
import Rover.Proofs.Moves
import Rover.Proofs.Catalogue
import Rover.Proofs.Refund
import Rover.Proofs.Reuse
import Rover.Proofs.Announcement
import Rover.Proofs.Prefix
import Rover.Proofs.Registry
import Rover.Proofs.Remembrance
import Rover.Proofs.Encoding
import Rover.Proofs.Layout
import Rover.Proofs.Exactness
import Rover.Proofs.Choice
import Rover.Proofs.Overrides
