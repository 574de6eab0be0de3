import StreamPlot.Main
import StreamPlot.Screen.View
import StreamPlot.Proofs.Input
import StreamPlot.Proofs.Reader
import StreamPlot.Proofs.Echo
import StreamPlot.Proofs.Channel
import StreamPlot.Proofs.Headless
import StreamPlot.Proofs.Feed
import StreamPlot.Proofs.Stopping
import StreamPlot.Proofs.Exit
import StreamPlot.Proofs.Binary.Nearest
import StreamPlot.Proofs.Binary.Number
import StreamPlot.Proofs.Binary.Arithmetic
import StreamPlot.Proofs.Window
import StreamPlot.Proofs.Plot
import StreamPlot.Proofs.Wire
import StreamPlot.Proofs.Calls
import StreamPlot.Proofs.CommandLine
import StreamPlot.Proofs.Settings
import StreamPlot.Proofs.Transcript
import StreamPlot.Proofs.Arguments
import StreamPlot.Proofs.Generator
import StreamPlot.Proofs.Pipeline
import StreamPlot.Proofs.Budget
import StreamPlot.Proofs.Binary.Order
import StreamPlot.Proofs.Extent
import StreamPlot.Proofs.Switches
import StreamPlot.Proofs.Viewer
import StreamPlot.Proofs.Decimal.Digits
import StreamPlot.Proofs.Decimal.Shortest
import StreamPlot.Proofs.Axis
import StreamPlot.Proofs.Transcript.Reading
import StreamPlot.Proofs.Session
import StreamPlot.Proofs.Terminal
import StreamPlot.Proofs.Lettering
import StreamPlot.Proofs.Recent
import StreamPlot.Proofs.StatusLine
import StreamPlot.Proofs.Waveform
import StreamPlot.Proofs.Log
import StreamPlot.Proofs.Decoding
import StreamPlot.Proofs.Binary.Half
import StreamPlot.Proofs.SquareWave
import StreamPlot.Proofs.MinusZero
import StreamPlot.Proofs.Filling
import StreamPlot.Proofs.Drawing
import StreamPlot.Proofs.Picture
