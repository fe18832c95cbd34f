import Steamworks.Library.Polar
import Steamworks.Library.Remainder
import Steamworks.Library.Run
import Steamworks.Library.Activation
import Steamworks.Library.Scheduler
import Steamworks.Library.Streak
import Steamworks.Library.Sampled
import Steamworks.Library.Word
import Steamworks.Library.Reading
import Steamworks.Library.Ownership
import Steamworks.Library.Ledger
import Steamworks.Library.Cursor
import Steamworks.Library.Double
import Steamworks.Library.Detector
import Steamworks.Library.Planar
import Steamworks.Library.Turns
import Steamworks.Library.Required
import Steamworks.Library.Circle
import Steamworks.Library.Shrink
import Steamworks.Library.Rotation
import Steamworks.Library.Feedback
import Steamworks.Library.Curtailed
import Steamworks.Library.Encoder
import Steamworks.Library.Group
import Steamworks.Library.Runner
import Steamworks.Library.Custody
import Steamworks.Swerve.Math
import Steamworks.Swerve.MathProofs
import Steamworks.Swerve.Drive
import Steamworks.Swerve.DriveProofs
import Steamworks.Swerve.FieldOriented
import Steamworks.Swerve.History
import Steamworks.Swerve.Rigid
import Steamworks.Swerve.TeleOp
import Steamworks.Swerve.Calibration
import Steamworks.Swerve.Brake
import Steamworks.Vision.Protocol
import Steamworks.Vision.Provenance
import Steamworks.Vision.Reception
import Steamworks.Vision.BoilerCamera
import Steamworks.Vision.CameraProtocol
import Steamworks.Vision.GearFrame
import Steamworks.Vision.BoilerFrame
import Steamworks.Vision.Retry
import Steamworks.Vision.Settled
import Steamworks.Vision.Panning
import Steamworks.Gyro.Robot
import Steamworks.Gyro.Orientation
import Steamworks.Gyro.Ramp
import Steamworks.Gyro.Azimuth
import Steamworks.Climbing.Commands
import Steamworks.Climbing.Rest
import Steamworks.Climbing.Captured
import Steamworks.Shooter.Table
import Steamworks.Shooter.Wheel
import Steamworks.Shooter.SpeedRange
import Steamworks.Shooter.RampDown
import Steamworks.Shooter.FixedShot
import Steamworks.Shooter.Elevation
import Steamworks.Shooter.Solution
import Steamworks.Shooter.Arrival
import Steamworks.Shooter.Farther
import Steamworks.Shooter.Sequence
import Steamworks.Shooter.Settling
import Steamworks.Shooter.Feeding
import Steamworks.Gear.Release
import Steamworks.Gear.Indicator
import Steamworks.Gear.Handling
import Steamworks.Auton.Commands
import Steamworks.Auton.Stopping
import Steamworks.Auton.Profile
import Steamworks.Auton.Segments
import Steamworks.Auton.Steering
import Steamworks.Auton.Target
import Steamworks.Auton.Aiming
import Steamworks.Auton.StopDetection
import Steamworks.Auton.Placing
import Steamworks.Auton.Sequences
import Steamworks.Auton.Resting
import Steamworks.PitTest.Tests
import Steamworks.PitTest.Steps
import Steamworks.PitTest.Stopping
import Steamworks.PitTest.Finished
import Steamworks.PitTest.Reads
import Steamworks.Startup.Log
import Steamworks.Startup.Configure
import Steamworks.Startup.TalonSettings
import Steamworks.Startup.TalonModes
import Steamworks.Startup.EncoderZero
import Steamworks.Swerve.Modes
import Steamworks.Bdc.Input
import Steamworks.Bdc.Lines
import Steamworks.Bdc.Settings
import Steamworks.Grapher.Thread
import Steamworks.Grapher.Datagrams
import Steamworks.Grapher.RoundTrip
import Steamworks.Grapher.Registry
import Steamworks.Grapher.Sampling
import Steamworks.Grapher.DeviceList
import Steamworks.Grapher.Pins
import Steamworks.Grapher.Packets
import Steamworks.Oi.Average
import Steamworks.Oi.Transfer
import Steamworks.Avenger.Cannon
